import FenceSync.Shell.Octet

namespace FenceSync.Shell

/-!
# Scripts

What a script consists of, as it is read and before anything in it is replaced.

* `Part` is a part of a word: text, quoted or not, or something to be replaced.
* `Command` is a command; lists of commands run one after the other.
* `Redirect` says where a descriptor leads during a command.
* `Condition` is what stands between double brackets.
-/

/-- The shells whose scripts can be read. -/
inductive Dialect where
  | posix
  | bash
  deriving DecidableEq, Repr, Inhabited

/-- How a branch of a choice goes on. -/
inductive BranchEnd where
  | leave
  /-- Into the next branch. -/
  | fall
  /-- With the patterns of the next branches. -/
  | retry
  deriving DecidableEq, Repr

/-- What a redirection does. -/
inductive RedirectKind where
  | read
  | write
  /-- Write even where files are kept. -/
  | clobber
  | append
  | both
  /-- A copy of a descriptor. -/
  | copy
  /-- Output and errors to one file. -/
  | outputs (append : Bool)
  /-- Read from a text. -/
  | document
  /-- Read from a text and a line feed. -/
  | hereString
  deriving DecidableEq, Repr

/-- What to do about a parameter that is not set. -/
inductive DefaultKind where
  | use
  | assign
  | complain
  | alternative
  deriving DecidableEq, Repr

mutual

/-- A part of a word. -/
inductive Part where
  | bare (t : Octets)
  | quoted (t : Octets)
  /-- Between double quotes. -/
  | double (ps : List Part)
  /-- A home directory. -/
  | tilde (user : Octets)
  /-- A parameter, possibly one of the elements of a list, and what becomes of its value. -/
  | param (name : Octets) (sub : Option Subscript) (op : ParamOp)
  /-- The output of commands. -/
  | capture (body : List Command)
  | arithmetic (ps : List Part)
  /-- A file to read the output of commands from, or to write their input to. -/
  | stream (toRead : Bool) (body : List Command)

/-- Which elements of a list are meant. -/
inductive Subscript where
  /-- All elements, as one text if `joined`. -/
  | all (joined : Bool)
  | at (ps : List Part)

/-- What becomes of the value of a parameter. -/
inductive ParamOp where
  | plain
  | length
  /-- The value is the name of another parameter, to which the operation is applied. -/
  | indirect (op : ParamOp)
  /-- The keys of a list. -/
  | keys
  /-- The names that start with that of the parameter. -/
  | names (joined : Bool)
  | default (colon : Bool) (kind : DefaultKind) (word : List Part)
  | trim (atEnd longest : Bool) (pattern : List Part)
  | slice (offset : List Part) (length : Option (List Part))
  /-- Replace matches: the first one, all, or one at the start or end. -/
  | replace (how : Char) (pattern replacement : List Part)
  /-- Change the case of the first character or of all. -/
  | recase (how : Char) (everywhere : Bool) (pattern : List Part)
  /-- Show the value in a way that a letter stands for. -/
  | transform (how : Char)
  /-- Nothing that could be done. -/
  | bad

/-- An assignment. -/
inductive Assign where
  | scalar (name : Octets) (sub : Option Subscript) (append : Bool) (value : List Part)
  | list (name : Octets) (append : Bool) (elements : List Element)

/-- An element in the assignment of a list. -/
inductive Element where
  | next (value : List Part)
  | at (sub : List Part) (append : Bool) (value : List Part)

/-- An argument, which some commands read as an assignment. -/
inductive Argument where
  | word (ps : List Part)
  | assign (a : Assign)

/-- A redirection of a descriptor, which may be left to the shell and stored in a variable. -/
inductive Redirect where
  | mk (fd : Option Nat) (binding? : Option Octets) (kind : RedirectKind) (target : List Part)

/-- What stands between double brackets. -/
inductive Condition where
  | word (ps : List Part)
  | unary (op : Octets) (ps : List Part)
  | binary (op : Octets) (left right : List Part)
  | not (c : Condition)
  | and (c d : Condition)
  | or (c d : Condition)

/-- A branch of a choice. -/
inductive Branch where
  | mk (patterns : List (List Part)) (body : List Command) (ending : BranchEnd)

/-- A branch under a condition. -/
inductive Clause where
  | mk (test body : List Command)

/-- A command. -/
inductive Command where
  | simple (line : Nat) (assigns : List Assign) (arguments : List Argument)
      (redirects : List Redirect)
  | group (body : List Command)
  | subshell (body : List Command)
  | branch (clauses : List Clause) (otherwise : Option (List Command))
  | loop (untilDone : Bool) (test body : List Command)
  | forEach (name : Octets) (words : Option (List (List Part))) (body : List Command)
  | forCount (start test step : List Part) (body : List Command)
  | choose (subject : List Part) (branches : List Branch)
  | define (name : Octets) (body : Command)
  | compute (ps : List Part)
  | check (c : Condition)
  /-- A command with redirections around it. -/
  | redirected (c : Command) (redirects : List Redirect)
  | negated (c : Command)
  | pipeline (cs : List Command)
  | andThen (c d : Command)
  | orElse (c d : Command)
  | background (c : Command)

end

/-- A word. -/
abbrev Word := List Part

instance : Inhabited Part := ⟨.bare []⟩
instance : Inhabited Command := ⟨.group []⟩
instance : Inhabited Condition := ⟨.word []⟩

/-- The text of a word in which nothing is quoted or replaced. -/
def Word.bareText? (w : Word) : Option Octets :=
  w.foldlM (fun t p => match p with
    | .bare u => some (t ++ u)
    | _ => none) []

end FenceSync.Shell
