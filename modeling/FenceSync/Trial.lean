import FenceSync.Text.Basic

namespace FenceSync

/-!
# Trials

A trial goes through a text in one way after another until one of them succeeds, and counts how
often it goes back; if it has done so too often it gives up.

* `Trial` is a trial that may go back a number of times.
* `Trial.many`, `Trial.few`, `Trial.optional` and `Trial.word` pass over a part of a text and go on
  with another trial behind it.
-/

variable {β : Type}

/-- How a trial ends. -/
inductive Attempt (β : Type) where
  /-- It succeeded, with this result. -/
  | found (result : β)
  /-- It failed; so many retreats are left. -/
  | failed (left : Nat)
  /-- It gave up. -/
  | exhausted
  deriving DecidableEq, Repr

/-- A trial, which may go back so many times. -/
abbrev Trial (β : Type) := Nat → Attempt β

namespace Trial

/-- Nothing succeeds. -/
def fail : Trial β := .failed

/-- Go back. -/
def retreat (b : Trial β) : Trial β
  | 0 => .exhausted
  | n + 1 => b n

/-- Go back to another trial if one failed. -/
def orElse (a b : Trial β) : Trial β := fun n =>
  match a n with
  | .failed m => b.retreat m
  | e => e

/-- Go back to the trial behind each of several tails in turn. -/
def eachOf (k : Text → Trial β) : List Text → Trial β
  | [], n => .failed n
  | _ :: _, 0 => .exhausted
  | t :: ts, n + 1 =>
    match k t n with
    | .failed m => eachOf k ts m
    | e => e

/-- The tails of a text behind characters of a kind, the shortest tail first, in front of others. -/
def tailsBehind (p : Char → Bool) : List Text → Text → List Text
  | done, [] => [] :: done
  | done, c :: t => if p c then tailsBehind p ((c :: t) :: done) t else (c :: t) :: done

/-- Pass over as many characters of a kind as possible; fewer ones are tried later. -/
def many (p : Char → Bool) (k : Text → Trial β) (t : Text) : Trial β :=
  eachOf k (tailsBehind p [] t)

/-- Pass over as many characters of a kind as possible, at least one. -/
def manyOne (p : Char → Bool) (k : Text → Trial β) : Text → Trial β
  | [] => fail
  | c :: t => if p c then many p k t else fail

/-- Pass over as few characters of a kind as possible, at least one; more are tried later. -/
def few (p : Char → Bool) (k : Text → Trial β) : Text → Trial β
  | [], n => .failed n
  | c :: t, n =>
    if p c then
      match k t n with
      | .failed 0 => .exhausted
      | .failed (m + 1) => few p k t m
      | e => e
    else .failed n

/-- Pass over a word. -/
def word (w : Text) (k : Text → Trial β) (t : Text) : Trial β :=
  match Text.after? w t with
  | some rest => k rest
  | none => fail

/-- Pass over a character if it is there; that it is not passed over is tried later. -/
def optional (c : Char) (k : Text → Trial β) (t : Text) : Trial β :=
  if t.head? = some c then (k (t.drop 1)).orElse (k t) else retreat (k t)

/-- Pass over an end of a line. -/
def newline (k : Text → Trial β) : Text → Trial β := optional '\r' (word ['\n'] k)

end Trial

end FenceSync
