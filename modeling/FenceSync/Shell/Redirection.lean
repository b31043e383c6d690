import FenceSync.Shell.Expand

namespace FenceSync.Shell

/-!
# Redirections

* `Sh.redirect` lets descriptors lead elsewhere, and says what they led to before.
* `Sh.restore` brings that back.
-/

/-- What a descriptor led to before: nothing, or what a descriptor kept aside leads to. -/
structure Kept where
  fd : Nat
  aside : Option Nat
  deriving Repr

namespace Sh

/-- Why a file cannot be opened, in words. -/
def fileFault (e : FileError) : String :=
  match e with
  | .notFound => "No such file or directory"
  | .notDirectory => "Not a directory"
  | .isDirectory => "Is a directory"
  | .tooManyLinks => "Too many levels of symbolic links"
  | .permissionDenied => "Permission denied"
  | .nameTooLong => "File name too long"
  | .exists => "File exists"
  | .noSpace => "No space left on device"
  | .notEmpty => "Directory not empty"
  | _ => "Bad file descriptor"

/-- Remember what a descriptor leads to. -/
def keep (fd : Nat) : Sh Kept := do
  Prog.act fun pid k =>
    match k.openedAt? pid fd with
    | none => (⟨fd, none⟩, k)
    | some n =>
      let aside := k.freeDescriptor pid Kernel.asideStart
      (⟨fd, some aside⟩, k.setDescriptor pid aside n)

/-- Bring back what descriptors led to, the last one first. -/
def restore (kept : List Kept) : Sh Unit := do
  for e in kept do
    match e.aside with
    | none => Sys.close e.fd
    | some aside =>
      Sys.setDescriptor e.fd (← openedAt aside)
      Sys.close aside

/-- Forget what descriptors led to. -/
def forget (kept : List Kept) : Sh Unit := do
  for e in kept do
    match e.aside with
    | none => pure ()
    | some aside => Sys.close aside

/-- The path of a redirection. -/
def redirectPath (h : Hooks) (w : Word) : Sh (Except String Octets) := do
  if ← isBash then
    match ← fields h w with
    | [t] => return .ok t
    | _ => return .error "ambiguous redirect"
  else return .ok (← textOf h w)

/-- A descriptor that a text can be read from. -/
def textFile (t : Octets) : Prog Nat :=
  Prog.act fun pid k =>
    let ((r, w), k) := k.makePipe false
    let k := match (k.opened.get? w).map (·.channel) with
      | some (.writer p) => { k with pipes := k.pipes.modify p fun pipe => pipe.push t }
      | _ => k
    let fd := k.freeDescriptor pid Kernel.asideStart
    (fd, k.setDescriptor pid fd r)

/-- Open a file for a redirection, under a descriptor kept aside. -/
def openAside (path : Octets) (how : OpenMode) : Sh (Except String Nat) := do
  if path.isEmpty then return .error "No such file or directory"
  else match ← Sys.openFrom Kernel.asideStart path how with
    | .ok fd => return .ok fd
    | .error e => return .error s!"{Octets.toString path}: {fileFault e}"

/-- How a redirection opens its file. -/
def openMode (kind : RedirectKind) : Sh OpenMode := do
  let fresh : OpenMode := if ← flag 'C' then .create else .write
  match kind with
  | .read => return .read
  | .write => return fresh
  | .append => return .append
  | .both => return .both
  | .outputs append => return if append then .append else fresh
  | _ => return .write

/-- Do one redirection; what it replaces is put in front of what was kept before. -/
def redirectOne (h : Hooks) (kept : List Kept) : Redirect → Sh (Except String (List Kept))
  | .mk fd binding? kind target => do
    let given := fd.getD 0
    let place (source : Nat) (fds : List Nat) : Sh (List Kept) := do
      match binding? with
      | some name =>
        let free ← Prog.look fun pid k => k.freeDescriptor pid 10
        Sys.setDescriptor free (← openedAt source)
        Sys.close source
        putText name (Octets.ofNat free)
        return kept
      | none =>
        let mut kept := kept
        for fd in fds do
          kept := (← keep fd) :: kept
          Sys.setDescriptor fd (← openedAt source)
        Sys.close source
        return kept
    match kind with
    | .document =>
      let t := Marked.text (Piece.joined [' '] (← Expand.pieces h .quoted target))
      return .ok (← place (← textFile t) [given])
    | .hereString =>
      let t ← textOf h target
      return .ok (← place (← textFile (t ++ ['\n'])) [given])
    | .copy =>
      let t ← textOf h target
      let closes := t.getLast? == some '-'
      let digits := if closes then t.dropLast else t
      match binding?, t with
      | some name, ['-'] =>
        match ((← value? name).bind Octets.nat?) with
        | some n =>
          Sys.close n
          return .ok kept
        | none => return .error s!"{Octets.toString name}: ambiguous redirect"
      | _, ['-'] =>
        let kept := (← keep given) :: kept
        Sys.close given
        return .ok kept
      | _, _ =>
        match Octets.nat? digits with
        | none => return .error s!"{Octets.toString t}: bad descriptor"
        | some n =>
          match (← Sys.openedAt? n).filter fun _ => n < Kernel.asideStart with
          | none => return .error s!"{n}: Bad file descriptor"
          | some file =>
            let aside ← Prog.look fun pid k => k.freeDescriptor pid Kernel.asideStart
            Sys.setDescriptor aside file
            let kept ← place aside [given]
            if closes && n != given then Sys.close n
            return .ok kept
    | kind =>
      match ← redirectPath h target with
      | .error t => return .error t
      | .ok path =>
        match ← openAside path (← openMode kind) with
        | .error t => return .error t
        | .ok source =>
          let fds := match kind with
            | .outputs _ => [1, 2]
            | _ => [given]
          return .ok (← place source fds)

/-- Why descriptors could not be redirected. -/
inductive RedirectFault where
  | text (t : String)
  /-- There was a message already, and the status is set. -/
  | told
  deriving Repr

/-- Do one redirection.  What ends the simpler shell elsewhere is just a fault in a
    here-document. -/
def redirectNext (h : Hooks) (kept : List Kept) (r : Redirect) :
    Sh (Except RedirectFault (List Kept)) := do
  try
    match ← redirectOne h kept r with
    | .ok kept => return .ok kept
    | .error t =>
      restore kept
      return .error (.text t)
  catch j =>
    restore kept
    match r with
    | .mk _ _ .document _ => if ← isBash then throw j else return .error .told
    | _ => throw j

/-- Do redirections one after the other; what they replace is put in front of what was kept
    before. -/
def redirectAll (h : Hooks) : List Redirect → List Kept → Sh (Except RedirectFault (List Kept))
  | [], kept => return .ok kept
  | r :: rs, kept => do
    match ← redirectNext h kept r with
    | .ok kept => redirectAll h rs kept
    | .error e => return .error e

/-- Do redirections one after the other; what they replace, the last one first.  If a process of its
    own does that (`apart`), it alone ends at a fault. -/
def redirect (h : Hooks) (apart : Bool) (rs : List Redirect) :
    Sh (Except RedirectFault (List Kept)) := do
  try redirectAll h rs []
  catch j => if apart then return .error .told else throw j

end Sh

end FenceSync.Shell
