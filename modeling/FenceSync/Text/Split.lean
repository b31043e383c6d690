import FenceSync.Text.Basic

namespace FenceSync

/-!
# Cutting a text at a separator

* `Text.splitOn` cuts at every occurrence of a separator, from left to right and without overlap;
  an empty separator stands before, between and behind all characters.
* `Text.joinWith` puts the separator back.
* `Text.occurrences` counts the positions at which a text starts with a given one.
* `Text.lineNumber` counts lines up to a byte offset.
* `Text.preview` keeps the first pieces and says how many it leaves out.
-/

namespace Text

/-! ### Pieces -/

/-- The pieces of a text between occurrences of `sep`, when `skip` more characters belong to an
    occurrence that has been found. -/
def piecesFrom (sep : Text) : Nat → Text → List Text
  | _, [] => [[]]
  | skip + 1, _ :: t => piecesFrom sep skip t
  | 0, c :: t =>
    if sep.isPrefixOf (c :: t) then [] :: piecesFrom sep (sep.length - 1) t
    else consLine c (piecesFrom sep 0 t)

/-- Cut a text at every occurrence of `sep`. -/
def splitOn (sep t : Text) : List Text :=
  match sep with
  | [] => [] :: t.map (fun c => [c]) ++ [[]]
  | _ :: _ => piecesFrom sep 0 t

/-- Concatenate pieces with `sep` between them. -/
def joinWith (sep : Text) : List Text → Text
  | [] => []
  | [p] => p
  | p :: q :: ps => p ++ sep ++ joinWith sep (q :: ps)

theorem piecesFrom_ne_nil (sep : Text) (skip : Nat) (t : Text) : piecesFrom sep skip t ≠ [] := by
  induction t generalizing skip with
  | nil => simp [piecesFrom]
  | cons c t ih =>
    cases skip with
    | succ k => exact ih k
    | zero =>
      simp only [piecesFrom]
      split
      · simp
      · cases piecesFrom sep 0 t <;> simp [consLine]

/-- There is always a piece. -/
theorem splitOn_ne_nil (sep t : Text) : splitOn sep t ≠ [] := by
  cases sep with
  | nil => simp [splitOn]
  | cons c sep => exact piecesFrom_ne_nil _ _ _

theorem joinWith_cons_cons (sep p q : Text) (ps : List Text) :
    joinWith sep (p :: q :: ps) = p ++ sep ++ joinWith sep (q :: ps) := rfl

/-! ### Counting -/

/-- How often a text starts with `w` as one character after another is taken away. -/
def occurrences (w : Text) : Text → Nat
  | [] => 0
  | c :: t => (if w.isPrefixOf (c :: t) then 1 else 0) + occurrences w t

/-- The number of the line, counted from one, on which the byte at `offset` lies. -/
def lineNumber (newline t : Text) (offset : Nat) : Nat :=
  1 + occurrences newline (takeBytes offset t)

/-! ### Previews -/

/-- A numeral in base ten. -/
def ofNat (n : Nat) : Text := Nat.toDigits 10 n

/-- The first `n` pieces, and a note on how many are left out. -/
def preview (n : Nat) (pieces : List Text) : List Text :=
  let omitted := pieces.length - n
  pieces.take n ++
    if omitted = 0 then [] else ["... ".toList ++ ofNat omitted ++ " lines omitted".toList]

end Text

end FenceSync
