import FenceSync.Shell.Start
import FenceSync.Shell.Tool.Arrange
import FenceSync.Shell.Tool.Attribute
import FenceSync.Shell.Tool.Columns
import FenceSync.Shell.Tool.Compare
import FenceSync.Shell.Tool.Copy
import FenceSync.Shell.Tool.Digest
import FenceSync.Shell.Tool.Dump
import FenceSync.Shell.Tool.Encode
import FenceSync.Shell.Tool.Formula
import FenceSync.Shell.Tool.Number
import FenceSync.Shell.Tool.Pieces
import FenceSync.Shell.Tool.Process
import FenceSync.Shell.Tool.Scale
import FenceSync.Shell.Tool.Translate
import FenceSync.Shell.Tool.Wrap

namespace FenceSync.Shell

/-!
# Programs

* `Program.tools` are the programs that need no files.
* `Program.exec` is what a program does, found by its name.
-/

namespace Program

/-- Programs that print, decide or compute. -/
def plainTools : List (String × Tool) := [
  ("true", Tool.succeed 0), ("false", Tool.succeed 1), ("echo", Tool.echo),
  ("printf", Tool.printf), ("yes", Tool.yes), ("test", Tool.test), ("[", Tool.test),
  ("basename", Tool.basename), ("dirname", Tool.dirname), ("expr", Tool.expr), ("seq", Tool.seq),
  ("factor", Tool.factor), ("numfmt", Tool.numfmt)]

/-- Programs that work on texts. -/
def textTools : List (String × Tool) := [
  ("cat", Tool.cat), ("tac", Tool.tac), ("tee", Tool.tee), ("head", Tool.head),
  ("tail", Tool.tail), ("nl", Tool.nl), ("wc", Tool.wc), ("tr", Tool.tr), ("fold", Tool.fold),
  ("expand", Tool.expand), ("unexpand", Tool.unexpand), ("fmt", Tool.fmt), ("sort", Tool.sort),
  ("uniq", Tool.uniq), ("comm", Tool.comm), ("join", Tool.join), ("shuf", Tool.shuf),
  ("tsort", Tool.tsort), ("cut", Tool.cut), ("paste", Tool.paste), ("split", Tool.split),
  ("csplit", Tool.csplit), ("dd", Tool.dd), ("od", Tool.od),
  ("base64", Tool.encode Encoding.base64), ("base32", Tool.encode Encoding.base32),
  ("basenc", Tool.basenc), ("cksum", Tool.cksum Encoding.base64.encode), ("sum", Tool.sum),
  ("md5sum", Tool.digest "md5"), ("sha1sum", Tool.digest "sha1"),
  ("sha224sum", Tool.digest "sha224"), ("sha256sum", Tool.digest "sha256"),
  ("sha384sum", Tool.digest "sha384"), ("sha512sum", Tool.digest "sha512"),
  ("b2sum", Tool.digest "blake2b")]

/-- Programs that work on the file tree. -/
def treeTools : List (String × Tool) := [
  ("ls", Tool.ls), ("dir", Tool.dir), ("vdir", Tool.vdir), ("cp", Tool.cp), ("mv", Tool.mv),
  ("install", Tool.install), ("ln", Tool.ln), ("link", Tool.link), ("rm", Tool.rm),
  ("rmdir", Tool.rmdir), ("unlink", Tool.unlink), ("mkdir", Tool.mkdir), ("mktemp", Tool.mktemp),
  ("touch", Tool.touch), ("chmod", Tool.chmod), ("chown", Tool.chown), ("chgrp", Tool.chown),
  ("stat", Tool.stat), ("du", Tool.du), ("readlink", Tool.readlink), ("realpath", Tool.realpath),
  ("truncate", Tool.truncate), ("shred", Tool.shred), ("sync", Tool.sync),
  ("pathchk", Tool.pathchk)]

/-- Programs that run others or say where they run. -/
def processTools : List (String × Tool) := [
  ("env", Tool.env), ("printenv", Tool.printenv), ("nice", Tool.nice), ("nohup", Tool.nohup),
  ("stdbuf", Tool.stdbuf), ("timeout", Tool.timeout), ("sleep", Tool.sleep), ("date", Tool.date),
  ("pwd", Tool.pwd), ("tty", Tool.tty), ("id", Tool.identity), ("groups", Tool.groups),
  ("whoami", Tool.sayLine "root"), ("arch", Tool.sayLine "x86_64"),
  ("hostid", Tool.sayLine "007f0101"), ("logname", Tool.succeed 1), ("users", Tool.succeed 0),
  ("who", Tool.succeed 0), ("stty", Tool.succeed 1), ("uname", Tool.uname),
  ("nproc", Tool.nproc)]

/-- The programs that need no files, by name. -/
def tools : List (String × Tool) := plainTools ++ textTools ++ treeTools ++ processTools

/-- The shells by name. -/
def shells : List (String × Dialect) := [
  ("sh", .posix), ("dash", .posix), ("bash", .bash), ("rbash", .bash)]

/-- There is a program with this name that needs no file. -/
def isTool (name : Octets) : Bool :=
  let text := Octets.toString name
  tools.any (fun e => e.1 == text) || shells.any fun e => e.1 == text

/-- The interpreter that the first line of a script names, with an argument for it. -/
def interpreter? (content : Octets) : Option (List Octets) :=
  match content with
  | '#' :: '!' :: t =>
    let line := Octets.dropBlanks (t.takeWhile (· != '\n'))
    let prog := line.takeWhile fun c => !Octets.isBlank c
    let arg := Octets.dropBlanks (line.drop prog.length)
    let arg := (arg.reverse.dropWhile Octets.isBlank).reverse
    if prog.isEmpty then none else some (prog :: if arg.isEmpty then [] else [arg])
  | _ => none

/-- What a program does in an environment, with at most so many programs inside each other. -/
def execIn : Nat → Table Octets Octets → List Octets → Prog Nat
  | 0, _, _ => return 126
  | n + 1, env, argv => do
    let name := argv.headD []
    let path := (env.get? "PATH".toList).getD Located.usualPath
    match ← Located.find isTool path name with
    | .missing =>
      Sys.complain name "not found"
      return 127
    | .denied _ =>
      Sys.complain name "Permission denied"
      return 126
    | .tool found =>
      let base := Octets.toString (Located.cutLast found).2
      match shells.lookup base with
      | some d => Start.shell d (Sh.hooks (execIn n) isTool) env argv
      | none =>
        match tools.lookup base with
        | some tool => tool ⟨name, env, execIn n⟩ (argv.drop 1)
        | none => return 127
    | .script found =>
      match ← Sys.readFile found with
      | .error _ => return 126
      | .ok content =>
        let rest := found :: argv.drop 1
        match interpreter? content with
        | some front => execIn n env (front ++ rest)
        | none => execIn n env ("/bin/sh".toList :: rest)

/-- How many programs may start each other in place. -/
def depthLimit : Nat := 10000

/-- What a program does in an environment. -/
def exec : Table Octets Octets → List Octets → Prog Nat := execIn depthLimit

end Program

end FenceSync.Shell
