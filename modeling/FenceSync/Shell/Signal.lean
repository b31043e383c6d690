import FenceSync.Shell.Octet

namespace FenceSync.Shell

/-!
# Signals

* `Signal` is the number of a signal, and `Signal.ofName?` reads a number or a name.
* `Ending` says how a process ended, and `Ending.status` is what a shell makes of it.
-/

/-- A signal, by its number. -/
abbrev Signal := Nat

namespace Signal

/-- The signals by name. -/
def names : List (String × Signal) := [
  ("HUP", 1), ("INT", 2), ("QUIT", 3), ("ILL", 4), ("TRAP", 5), ("ABRT", 6), ("BUS", 7),
  ("FPE", 8), ("KILL", 9), ("USR1", 10), ("SEGV", 11), ("USR2", 12), ("PIPE", 13), ("ALRM", 14),
  ("TERM", 15), ("STKFLT", 16), ("CHLD", 17), ("CONT", 18), ("STOP", 19), ("TSTP", 20),
  ("TTIN", 21), ("TTOU", 22), ("URG", 23), ("XCPU", 24), ("XFSZ", 25), ("VTALRM", 26),
  ("PROF", 27), ("WINCH", 28), ("POLL", 29), ("PWR", 30), ("SYS", 31)]

def kill : Signal := 9
def pipe : Signal := 13
def term : Signal := 15

/-- The signals that do nothing unless they are caught. -/
def harmless : List Signal := [17, 18, 19, 20, 21, 22, 23, 28]

/-- The signal with a number or a name; the name may start with `SIG` and be in any case. -/
def ofName? (t : Octets) : Option Signal :=
  match Octets.nat? t with
  | some n => if n < 65 then some n else none
  | none =>
    let upper := t.map Char.toUpper
    let name := (Text.after? "SIG".toList upper).getD upper
    if name = "EXIT".toList then some 0
    else names.lookup (Octets.toString name)

/-- The name of a signal. -/
def name (s : Signal) : Octets :=
  match names.find? fun e => e.2 == s with
  | some e => e.1.toList
  | none => if s = 0 then "EXIT".toList else Octets.ofNat s

end Signal

/-- How a process ended. -/
inductive Ending where
  | code (n : Nat)
  | signal (s : Signal)
  deriving DecidableEq, Repr, Inhabited

/-- The status that a shell sees. -/
def Ending.status : Ending → Nat
  | .code n => n
  | .signal s => 128 + s

end FenceSync.Shell
