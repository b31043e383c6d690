namespace FenceSync

/-!
# Text

Documents, directives, paths and commands are lists of characters.  Everything that depends on
Unicode's notion of white space is built on `isSpace`.

* `Text.trim` removes white space on both sides.
* `Text.after?` removes a given opening.
* `Text.lines` cuts a text behind every line feed, so that the lines concatenate to the text.
* `Text.size` measures a text in the bytes of its UTF-8 form, and `Text.takeBytes` cuts there.
-/

/-- A text, character by character. -/
abbrev Text := List Char

/-! ### White space -/

/-- The characters with the Unicode property `White_Space`. -/
def isSpace (c : Char) : Bool :=
  let n := c.toNat
  (0x09 ≤ n && n ≤ 0x0D) || n == 0x20 || n == 0x85 || n == 0xA0 || n == 0x1680 ||
    (0x2000 ≤ n && n ≤ 0x200A) || n == 0x2028 || n == 0x2029 || n == 0x202F || n == 0x205F ||
    n == 0x3000

/-- The two characters that may stand in an indentation. -/
def isTabOrSpace (c : Char) : Bool := c == ' ' || c == '\t'

theorem isSpace_of_isTabOrSpace {c : Char} (h : isTabOrSpace c = true) : isSpace c = true := by
  simp only [isTabOrSpace, Bool.or_eq_true, beq_iff_eq] at h
  rcases h with rfl | rfl <;> decide

namespace Text

/-- The text without the white space it starts with. -/
def trimStart (t : Text) : Text := t.dropWhile isSpace

/-- The text without the white space it ends with. -/
def trimEnd (t : Text) : Text := (t.reverse.dropWhile isSpace).reverse

/-- The text without white space on either side. -/
def trim (t : Text) : Text := trimEnd (trimStart t)

/-- Nothing but white space. -/
def isBlank (t : Text) : Bool := t.all isSpace

/-- The part after the tabs and spaces that a text starts with. -/
def dropIndent (t : Text) : Text := t.dropWhile isTabOrSpace

/-- The tabs and spaces that a text starts with. -/
def indent (t : Text) : Text := t.takeWhile isTabOrSpace

theorem indent_append_dropIndent (t : Text) : indent t ++ dropIndent t = t :=
  List.takeWhile_append_dropWhile

/-! ### Openings -/

/-- What follows `opening` in a text that starts with it. -/
def after? : Text → Text → Option Text
  | [], t => some t
  | _ :: _, [] => none
  | c :: opening, d :: t => if c = d then after? opening t else none

theorem after?_append (opening t : Text) : after? opening (opening ++ t) = some t := by
  induction opening with
  | nil => rfl
  | cons c opening ih => simp [after?, ih]

theorem eq_append_of_after? {opening t rest : Text} (h : after? opening t = some rest) :
    t = opening ++ rest := by
  induction opening generalizing t with
  | nil => cases h; rfl
  | cons c opening ih =>
    cases t with
    | nil => cases h
    | cons d t =>
      simp only [after?] at h
      split at h
      · next e => rw [e, List.cons_append, ← ih h]
      · cases h

theorem after?_eq_some_iff {opening t rest : Text} :
    after? opening t = some rest ↔ t = opening ++ rest :=
  ⟨eq_append_of_after?, fun h => h ▸ after?_append opening rest⟩

/-- The part of a text in front of one of its tails. -/
def upTo (t rest : Text) : Text := t.take (t.length - rest.length)

@[simp] theorem upTo_append (s rest : Text) : upTo (s ++ rest) rest = s := by
  rw [upTo, List.length_append, Nat.add_sub_cancel, List.take_left]

/-- What precedes `ending` in a text that ends with it. -/
def before? (ending t : Text) : Option Text :=
  (after? ending.reverse t.reverse).map List.reverse

theorem before?_eq_some_iff {ending t s : Text} :
    before? ending t = some s ↔ t = s ++ ending := by
  rw [before?, Option.map_eq_some_iff]
  constructor
  · rintro ⟨u, hu, rfl⟩
    have ht := congrArg List.reverse (after?_eq_some_iff.mp hu)
    rwa [List.reverse_append, List.reverse_reverse, List.reverse_reverse] at ht
  · rintro rfl
    exact ⟨s.reverse, after?_eq_some_iff.mpr (List.reverse_append), List.reverse_reverse s⟩

theorem before?_eq_none {ending t : Text} (h : ∀ s, t ≠ s ++ ending) : before? ending t = none := by
  rw [Option.eq_none_iff_forall_ne_some]
  exact fun s hs => h s (before?_eq_some_iff.mp hs)

/-! ### Lines -/

/-- Put a character in front of the first line. -/
def consLine (c : Char) : List Text → List Text
  | [] => [[c]]
  | line :: lines => (c :: line) :: lines

/-- The lines of a text, each with the line feed that ends it. -/
def lines : Text → List Text
  | [] => []
  | c :: t => if c = '\n' then ['\n'] :: lines t else consLine c (lines t)

theorem flatten_consLine (c : Char) (ls : List Text) :
    (consLine c ls).flatten = c :: ls.flatten := by
  cases ls <;> rfl

/-- Cutting a text into lines loses nothing. -/
theorem flatten_lines (t : Text) : (lines t).flatten = t := by
  induction t with
  | nil => rfl
  | cons c t ih =>
    simp only [lines]
    split
    · next h => simp [ih, h]
    · rw [flatten_consLine, ih]

/-! ### Sizes in bytes -/

/-- The number of bytes of the UTF-8 form. -/
def size : Text → Nat
  | [] => 0
  | c :: t => c.utf8Size + size t

@[simp] theorem size_nil : size [] = 0 := rfl

@[simp] theorem size_cons (c : Char) (t : Text) : size (c :: t) = c.utf8Size + size t := rfl

@[simp] theorem size_append (s t : Text) : size (s ++ t) = size s + size t := by
  induction s with
  | nil => simp
  | cons c s ih => simp [ih, Nat.add_assoc]

/-- The characters that end within the first `n` bytes. -/
def takeBytes : Nat → Text → Text
  | _, [] => []
  | n, c :: t => if c.utf8Size ≤ n then c :: takeBytes (n - c.utf8Size) t else []

theorem takeBytes_append (s t : Text) : takeBytes (size s) (s ++ t) = s := by
  induction s with
  | nil => cases t with
    | nil => rfl
    | cons c t => simp [takeBytes, Nat.not_le.mpr c.utf8Size_pos]
  | cons c s ih => simp [takeBytes, ih]

/-- What follows the first `n` bytes, if a character ends there. -/
def dropBytes? : Nat → Text → Option Text
  | 0, t => some t
  | _ + 1, [] => none
  | n + 1, c :: t => if c.utf8Size ≤ n + 1 then dropBytes? (n + 1 - c.utf8Size) t else none

end Text

end FenceSync
