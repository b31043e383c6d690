import FenceSync.Proofs.Crlf
import FenceSync.Proofs.Searching

namespace FenceSync

/-!
# How often a failing search goes back

The number of retreats of a trial that fails is put together from those of its parts.

* `Trial.Costs` says that a trial fails after so many retreats, or gives up if it may not go back as
  often.
* `Search.givesUp_of_costs` decides with it whether a search gives up.
* `Search.costs_unclosed` is the cost of fences that are never closed: each of them is followed to
  the end of the text, so that the cost grows with the square of their number;
  `Search.costs_unclosedBehind` is the cost of such fences behind a blank.
* `Trial.Takes` says of a trial, be its result known or not, that it gives up if it may not go back
  at least so often; by `Search.givesUp_of_long_interior` a single block can be too long.
-/

namespace Trial

variable {β : Type}

/-- The trial fails after `c` retreats, if it may go back as often. -/
def Costs (a : Trial β) (c : Nat) : Prop :=
  ∀ n, a n = if c ≤ n then .failed (n - c) else .exhausted

theorem costs_fail : Costs (fail : Trial β) 0 := by
  intro n
  rw [if_pos (Nat.zero_le n)]
  rfl

theorem Costs.retreat {a : Trial β} {c : Nat} (h : Costs a c) : Costs a.retreat (c + 1) := by
  intro n
  cases n with
  | zero => rfl
  | succ n =>
    rw [Trial.retreat, h n]
    simp only [Nat.add_le_add_iff_right, Nat.add_sub_add_right]

theorem Costs.orElse {a b : Trial β} {c d : Nat} (ha : Costs a c) (hb : Costs b d) :
    Costs (a.orElse b) (c + d + 1) := by
  intro n
  rw [Trial.orElse, ha n]
  by_cases hc : c ≤ n
  · rw [if_pos hc]
    simp only
    rw [hb.retreat (n - c)]
    by_cases hd : d + 1 ≤ n - c
    · rw [if_pos hd, if_pos (by omega)]
      congr 1
      omega
    · rw [if_neg hd, if_neg (by omega)]
  · rw [if_neg hc, if_neg (by omega)]

/-! ### Passing over a part of a text -/

variable {k : Text → Trial β}

theorem costs_eachOf_nil : Costs (eachOf k []) 0 := costs_fail

theorem Costs.eachOf_cons {t : Text} {ts : List Text} {c d : Nat} (h : Costs (k t) c)
    (hs : Costs (eachOf k ts) d) : Costs (eachOf k (t :: ts)) (c + d + 1) := by
  intro n
  cases n with
  | zero => rw [if_neg (by omega)]; rfl
  | succ n =>
    rw [eachOf, h n]
    by_cases hc : c ≤ n
    · rw [if_pos hc]
      simp only
      rw [hs (n - c)]
      by_cases hd : d ≤ n - c
      · rw [if_pos hd, if_pos (by omega)]
        congr 1
        omega
      · rw [if_neg hd, if_neg (by omega)]
    · rw [if_neg hc, if_neg (by omega)]

/-- Passing over nothing. -/
theorem Costs.many_of_head? {p : Char → Bool} {t : Text} {c : Nat}
    (hp : ∀ x ∈ t.head?, p x = false) (h : Costs (k t) c) : Costs (many p k t) (c + 1) := by
  have htails : tailsBehind p [] t = [t] := by
    cases t with
    | nil => rfl
    | cons x t => simp [tailsBehind, hp x rfl]
  rw [many, htails]
  exact h.eachOf_cons costs_eachOf_nil

/-- Passing over one character, or not even that. -/
theorem Costs.many_cons {p : Char → Bool} {x : Char} {t : Text} {c d : Nat} (hx : p x = true)
    (hp : ∀ y ∈ t.head?, p y = false) (h : Costs (k t) c) (h' : Costs (k (x :: t)) d) :
    Costs (many p k (x :: t)) (c + d + 2) := by
  have htails : tailsBehind p [] (x :: t) = [t, x :: t] := by
    cases t with
    | nil => simp [tailsBehind, hx]
    | cons y t => simp [tailsBehind, hx, hp y rfl]
  rw [many, htails]
  exact h.eachOf_cons (h'.eachOf_cons costs_eachOf_nil)

theorem costs_word_of_none {w t : Text} (h : Text.after? w t = none) : Costs (word w k t) 0 := by
  rw [word, h]
  exact costs_fail

theorem Costs.word_append {t : Text} {c : Nat} (h : Costs (k t) c) (w : Text) :
    Costs (word w k (w ++ t)) c := by
  rw [word, Text.after?_append]
  exact h

/-- Passing over a newline costs one retreat, be it CR LF or LF. -/
theorem Costs.newline_append {t : Text} {c : Nat} (h : Costs (k t) c) (nl : Newline) :
    Costs (newline k (nl.text ++ t)) (c + 1) := by
  cases nl with
  | lf => exact (h.word_append ['\n']).retreat
  | crlf => exact (h.word_append ['\n']).orElse (costs_word_of_none rfl)

theorem costs_newline_of_inLine {x : Char} (hcr : x ≠ '\r') (hlf : x ≠ '\n') (t : Text) :
    Costs (newline k (x :: t)) 1 := by
  rw [newline, optional, if_neg (by simpa using hcr)]
  refine (costs_word_of_none ?_).retreat
  rw [Text.after?, if_neg (Ne.symm hlf)]

/-! ### Trials that go back often, whatever they find -/

/-- The trial gives up unless it may go back at least so often. -/
def Takes (a : Trial β) (c : Nat) : Prop := ∀ n < c, a n = .exhausted

section
variable {a b : Trial β} {c d : Nat}

theorem takes_zero (a : Trial β) : Takes a 0 := fun _ h => absurd h (Nat.not_lt_zero _)

theorem Takes.retreat (h : Takes a c) : Takes a.retreat (c + 1) := by
  intro n hn
  cases n with
  | zero => rfl
  | succ n => exact h n (Nat.lt_of_succ_lt_succ hn)

theorem Takes.orElse_left (h : Takes a c) (b : Trial β) : Takes (a.orElse b) c := by
  intro n hn
  rw [Trial.orElse, h n hn]

theorem Takes.orElse_right (ha : Costs a d) (hb : Takes b c) : Takes (a.orElse b) c := by
  intro n hn
  rw [Trial.orElse, ha n]
  by_cases hd : d ≤ n
  · rw [if_pos hd]
    exact hb.retreat (n - d) (by omega)
  · rw [if_neg hd]

/-- The longest way of passing over characters of a kind is tried first. -/
theorem Takes.many {p : Char → Bool} {t : Text} (h : Takes (k (t.dropWhile p)) c) :
    Takes (many p k t) c := by
  intro n hn
  obtain ⟨ts, hts⟩ := tailsBehind_eq_cons p [] t
  rw [Trial.many, hts]
  cases n with
  | zero => rfl
  | succ n => rw [eachOf, h n (by omega)]

theorem Takes.word_append {t : Text} (h : Takes (k t) c) (w : Text) :
    Takes (word w k (w ++ t)) c := by
  rw [word, Text.after?_append]
  exact h

theorem Takes.newline_lf {t : Text} (h : Takes (k t) c) : Takes (newline k ('\n' :: t)) c := by
  intro n hn
  exact (h.word_append ['\n']).retreat n (by omega)

end

end Trial

namespace Search

open Trial

variable {β : Type} {r : Text → Text → β}

/-! ### Inside a block -/

theorem costs_interior_nil (i : Text) (starts : Bool) : Costs (interior i r starts []) 1 := by
  rw [interior_nil]
  exact costs_fail.retreat

/-- Every character that starts no closing fence costs one retreat. -/
theorem costs_interior_cons {i : Text} {starts : Bool} {c : Char} {t : Text} {d : Nat}
    (hclosing : starts = true → behindClosing? i (c :: t) = none)
    (h : Costs (interior i r (c == '\n') t) d) :
    Costs (interior i r starts (c :: t)) (d + 1) := by
  rw [interior_cons hclosing]
  exact h.retreat

/-! ### At the start of a line -/

variable (size : Nat)

/-- A line that starts neither with a blank nor with a marker or a fence costs little. -/
theorem costs_block_plain {t : Text} (hblank : ∀ c ∈ t.head?, isTabOrSpace c = false)
    (hmarker : Text.after? "<!--".toList t = none) (hfence : Text.after? fenceMark t = none) :
    Costs (block size t) 3 :=
  ((costs_word_of_none hmarker).many_of_head? hblank).orElse
    ((costs_word_of_none hfence).many_of_head? hblank)

/-- The opening line of a fence, with a backtick for an info string. -/
def unclosedLine (nl : Newline) : Text := '\x60' :: '\x60' :: '\x60' :: '\x60' :: nl.text

/-- The info string is passed over with its backtick or without; only the former finds a newline. -/
theorem costs_info_unclosedLine (nl : Newline) {k : Text → Text → Trial β} {t : Text} {c : Nat}
    (h : ∀ behind, Costs (k behind t) c) :
    Costs (many isLanguageChar (fun behind => many isInLine (newline (k behind)) behind)
      ('\x60' :: (nl.text ++ t))) (c + 5) := by
  have htails : tailsBehind isInLine [] ('\x60' :: (nl.text ++ t)) =
      [nl.text ++ t, '\x60' :: (nl.text ++ t)] := by
    cases nl <;> rfl
  have hinfo : ∀ behind, Costs (many isInLine (newline (k behind)) ('\x60' :: (nl.text ++ t)))
      (c + 4) := by
    intro behind
    rw [many, htails]
    exact ((h behind).newline_append nl).eachOf_cons
      ((costs_newline_of_inLine (by decide) (by decide) _).eachOf_cons costs_eachOf_nil)
  exact Costs.many_of_head? (by intro x hx; cases hx; rfl) (hinfo _)

/-- A fence costs as much as its interior, and a little more. -/
theorem costs_block_unclosedLine (nl : Newline) {t : Text} {c : Nat}
    (h : ∀ r : Text → Text → Hit, Costs (interior [] r true t) c) :
    Costs (block size (unclosedLine nl ++ t)) (c + 8) := by
  have hline : unclosedLine nl ++ t = fenceMark ++ ('\x60' :: (nl.text ++ t)) := rfl
  have hindent : Text.indent (unclosedLine nl ++ t) = [] := rfl
  have hblank : ∀ x ∈ (unclosedLine nl ++ t).head?, isTabOrSpace x = false := by
    intro x hx
    cases hx
    rfl
  have hmarker : Costs (marker size fence (unclosedLine nl ++ t)) 1 :=
    (costs_word_of_none rfl).many_of_head? hblank
  have hfence : Costs (fence .absent (unclosedLine nl ++ t)) (c + 6) := by
    rw [fence, hindent, opening, blanks]
    refine Costs.many_of_head? hblank ?_
    rw [hline]
    refine Costs.word_append ?_ fenceMark
    exact costs_info_unclosedLine nl fun _ => h _
  have hblock := hmarker.orElse hfence
  rwa [show 1 + (c + 6) + 1 = c + 8 by omega] at hblock

/-! ### From line to line -/

theorem costs_next_nil {c : Nat} (h : Costs (block size []) c) :
    Costs (next size true []) (c + 1) := by
  rw [next_nil]
  exact h.orElse costs_fail

theorem costs_next_cons (starts : Bool) {x : Char} {t : Text} {c d : Nat}
    (h : Costs (if starts then block size (x :: t) else retreat fail) c)
    (hs : Costs (next size (x == '\n') t) d) : Costs (next size starts (x :: t)) (c + d + 1) := by
  rw [next_cons]
  exact h.orElse hs

/-- Inside a line every character costs two retreats. -/
theorem costs_next_inside {x : Char} {t : Text} {c : Nat}
    (h : Costs (next size (x == '\n') t) c) : Costs (next size false (x :: t)) (c + 2) := by
  have hcons := costs_next_cons size false costs_fail.retreat h
  rwa [show 0 + 1 + c + 1 = c + 2 by omega] at hcons

/-- Whether a search gives up, by what it costs. -/
theorem givesUp_of_costs {t : Text} {c : Nat} (h : Costs (next t.length true t) c) :
    givesUp t = decide (limit < c) := by
  rw [givesUp, givesUpFrom, h limit]
  by_cases hc : c ≤ limit
  · rw [if_pos hc]
    simp only
    rw [decide_eq_false (by omega)]
  · rw [if_neg hc]
    simp only
    rw [decide_eq_true (by omega)]

/-! ### Fences that are never closed -/

/-- So many empty lines. -/
def emptyLines (nl : Newline) : Nat → Text
  | 0 => []
  | n + 1 => nl.text ++ emptyLines nl n

/-- Fences that are not closed, in front of `n` empty lines. -/
def unclosed (nl : Newline) (n : Nat) : Nat → Text
  | 0 => emptyLines nl n
  | m + 1 => unclosedLine nl ++ unclosed nl n m

/-- What it costs to search through unclosed fences and `n` empty lines. -/
def unclosedCost (nl : Newline) (n : Nat) : Nat → Nat
  | 0 => n * (2 + 2 * nl.text.length) + 4
  | m + 1 =>
    unclosedCost nl n m + (m * (4 + nl.text.length) + n * nl.text.length) + 16 +
      2 * nl.text.length

theorem length_unclosed (nl : Newline) (n m : Nat) :
    (unclosed nl n m).length = m * (4 + nl.text.length) + n * nl.text.length := by
  induction m with
  | zero =>
    rw [unclosed, Nat.zero_mul, Nat.zero_add]
    induction n with
    | zero => rw [emptyLines, Nat.zero_mul, List.length_nil]
    | succ n ih => rw [emptyLines, List.length_append, ih, Nat.succ_mul, Nat.add_comm]
  | succ m ih =>
    have hline : (unclosedLine nl).length = 4 + nl.text.length := by
      simp only [unclosedLine, List.length_cons]
      omega
    rw [unclosed, List.length_append, ih, hline, Nat.succ_mul]
    omega

/-- Only the first character of a line can start a closing fence. -/
theorem costs_interior_inside {i : Text} {c : Char} {t : Text} {d : Nat}
    (h : Costs (interior i r (c == '\n') t) d) : Costs (interior i r false (c :: t)) (d + 1) :=
  costs_interior_cons (fun hstarts => absurd hstarts Bool.false_ne_true) h

/-- An interior is followed to the end of the text. -/
theorem costs_interior_unclosed (nl : Newline) (n m : Nat) :
    Costs (interior [] r true (unclosed nl n m)) ((unclosed nl n m).length + 1) := by
  induction m with
  | zero =>
    rw [unclosed]
    induction n with
    | zero => exact costs_interior_nil [] true
    | succ n ih =>
      cases nl with
      | lf => exact costs_interior_cons (fun _ => rfl) ih
      | crlf => exact costs_interior_cons (fun _ => rfl) (costs_interior_inside ih)
  | succ m ih =>
    have hline : Costs (interior [] r false ('\x60' :: '\x60' :: '\x60' :: nl.text ++ unclosed nl n m))
        ((unclosedLine nl ++ unclosed nl n m).length) := by
      -- The fourth backtick keeps the line from closing a fence.
      cases nl with
      | lf =>
        exact costs_interior_inside (costs_interior_inside (costs_interior_inside
          (costs_interior_inside ih)))
      | crlf =>
        exact costs_interior_inside (costs_interior_inside (costs_interior_inside
          (costs_interior_inside (costs_interior_inside ih))))
    exact costs_interior_cons (fun _ => rfl) hline

/-- An empty line costs a search for a marker and a fence, and two retreats for a further
    character. -/
theorem costs_next_newline (nl : Newline) {t : Text} {c : Nat} (h : Costs (next size true t) c) :
    Costs (next size true (nl.text ++ t)) (c + (2 + 2 * nl.text.length)) := by
  have hblock : Costs (block size (nl.text ++ t)) 3 := by
    refine costs_block_plain size ?_ ?_ ?_
    · intro x hx
      cases nl <;> (cases hx; rfl)
    · cases nl <;> rfl
    · cases nl <;> rfl
  cases nl with
  | lf =>
    have hnext := costs_next_cons size true hblock h
    rwa [show 3 + c + 1 = c + (2 + 2 * Newline.lf.text.length) by
      simp only [Newline.text, List.length_singleton]; omega] at hnext
  | crlf =>
    have hnext := costs_next_cons size true hblock (costs_next_inside size h)
    rwa [show 3 + (c + 2) + 1 = c + (2 + 2 * Newline.crlf.text.length) by
      simp only [Newline.text, List.length_cons, List.length_nil]; omega] at hnext

/-- The rest of an opening line costs two retreats for each character. -/
theorem costs_next_unclosedLine (nl : Newline) {t : Text} {b c : Nat}
    (hblock : Costs (block size (unclosedLine nl ++ t)) b) (h : Costs (next size true t) c) :
    Costs (next size true (unclosedLine nl ++ t)) (b + c + 7 + 2 * nl.text.length) := by
  cases nl with
  | lf =>
    have hnext := costs_next_cons size true hblock
      (costs_next_inside size (costs_next_inside size (costs_next_inside size
        (costs_next_inside size h))))
    rwa [show b + (c + 2 + 2 + 2 + 2) + 1 = b + c + 7 + 2 * Newline.lf.text.length by
      simp only [Newline.text, List.length_singleton]; omega] at hnext
  | crlf =>
    have hnext := costs_next_cons size true hblock
      (costs_next_inside size (costs_next_inside size (costs_next_inside size
        (costs_next_inside size (costs_next_inside size h)))))
    rwa [show b + (c + 2 + 2 + 2 + 2 + 2) + 1 = b + c + 7 + 2 * Newline.crlf.text.length by
      simp only [Newline.text, List.length_cons, List.length_nil]; omega] at hnext

/-- **The cost of unclosed fences.**  Each of them is followed to the end of the text. -/
theorem costs_unclosed (nl : Newline) (n m : Nat) :
    Costs (next size true (unclosed nl n m)) (unclosedCost nl n m) := by
  induction m with
  | zero =>
    rw [unclosed, unclosedCost]
    induction n with
    | zero =>
      rw [Nat.zero_mul]
      exact costs_next_nil size (costs_block_plain size (by simp) rfl rfl)
    | succ n ih =>
      have hnext := costs_next_newline size nl ih
      rwa [show n * (2 + 2 * nl.text.length) + 4 + (2 + 2 * nl.text.length) =
        (n + 1) * (2 + 2 * nl.text.length) + 4 by rw [Nat.succ_mul n]; omega] at hnext
  | succ m ih =>
    have hinterior : ∀ r : Text → Text → Hit, Costs (interior [] r true (unclosed nl n m)) _ :=
      fun _ => costs_interior_unclosed nl n m
    rw [length_unclosed] at hinterior
    have hnext := costs_next_unclosedLine size nl (costs_block_unclosedLine size nl hinterior) ih
    rw [unclosed, unclosedCost]
    rwa [show m * (4 + nl.text.length) + n * nl.text.length + 1 + 8 + unclosedCost nl n m + 7 +
        2 * nl.text.length =
      unclosedCost nl n m + (m * (4 + nl.text.length) + n * nl.text.length) + 16 +
        2 * nl.text.length by omega] at hnext

/-! ### Fences that are never closed, behind a blank -/

/-- Fences that are not closed, each behind a blank. -/
def unclosedBehind (b : Char) : Nat → Text
  | 0 => []
  | m + 1 => b :: (unclosedLine .lf ++ unclosedBehind b m)

/-- What it costs to search through unclosed fences behind a blank. -/
def unclosedBehindCost : Nat → Nat
  | 0 => 4
  | m + 1 => unclosedBehindCost m + 6 * m + 22

section
variable {b : Char} (hb : isTabOrSpace b = true)
include hb

theorem costs_interior_unclosedBehind (m : Nat) :
    Costs (interior [b] r true (unclosedBehind b m)) (6 * m + 1) := by
  induction m with
  | zero => exact costs_interior_nil [b] true
  | succ m ih =>
    have hlf : (b == '\n') = false := by
      rw [beq_eq_false_iff_ne]
      rintro rfl
      exact absurd hb (by decide)
    -- The fourth backtick keeps the line from closing a fence.
    have hclosing : behindClosing? [b] (b :: (unclosedLine .lf ++ unclosedBehind b m)) = none := by
      rw [behindClosing?, List.singleton_append, Text.after?, if_pos rfl]
      rfl
    have hline : Costs (interior [b] r (b == '\n') (unclosedLine .lf ++ unclosedBehind b m))
        (6 * m + 1 + 5) := by
      rw [hlf]
      exact costs_interior_inside (costs_interior_inside (costs_interior_inside
        (costs_interior_inside (costs_interior_inside ih))))
    rw [show 6 * (m + 1) + 1 = 6 * m + 1 + 5 + 1 by omega]
    exact costs_interior_cons (fun _ => hclosing) hline

theorem costs_block_behind {t : Text} {c : Nat}
    (h : ∀ r : Text → Text → Hit, Costs (interior [b] r true t) c) :
    Costs (block size (b :: (unclosedLine .lf ++ t))) (c + 10) := by
  have hmark : ∀ x ∈ (unclosedLine .lf ++ t).head?, isTabOrSpace x = false := by
    intro x hx
    cases hx
    rfl
  have hfirst : b ≠ '<' ∧ b ≠ '\x60' := by
    constructor <;> (rintro rfl; exact absurd hb (by decide))
  have hindent : Text.indent (b :: (unclosedLine .lf ++ t)) = [b] := by
    rw [Text.indent, List.takeWhile_cons_of_pos hb]
    rfl
  have hmarker : Costs (marker size fence (b :: (unclosedLine .lf ++ t))) 2 := by
    have hstart : Text.after? "<!--".toList (b :: (unclosedLine .lf ++ t)) = none := by
      rw [show "<!--".toList = ['<', '!', '-', '-'] from rfl, Text.after?,
        if_neg (Ne.symm hfirst.1)]
    exact Costs.many_cons hb hmark (costs_word_of_none rfl) (costs_word_of_none hstart)
  have hfence : Costs (fence .absent (b :: (unclosedLine .lf ++ t))) (c + 7) := by
    have hline : unclosedLine .lf ++ t = fenceMark ++ ('\x60' :: (Newline.lf.text ++ t)) := rfl
    have hstart : Text.after? fenceMark (b :: (unclosedLine .lf ++ t)) = none := by
      rw [fenceMark, Text.after?, if_neg (Ne.symm hfirst.2)]
    rw [fence, hindent, opening, blanks]
    refine Costs.many_cons (c := c + 5) (d := 0) hb hmark ?_ (costs_word_of_none hstart)
    rw [hline]
    refine Costs.word_append ?_ fenceMark
    exact costs_info_unclosedLine .lf fun _ => h _
  have hblock := hmarker.orElse hfence
  rwa [show 2 + (c + 7) + 1 = c + 10 by omega] at hblock

/-- **The cost of unclosed fences behind a blank.** -/
theorem costs_unclosedBehind (m : Nat) :
    Costs (next size true (unclosedBehind b m)) (unclosedBehindCost m) := by
  induction m with
  | zero => exact costs_next_nil size (costs_block_plain size (by simp) rfl rfl)
  | succ m ih =>
    have hblock := costs_block_behind size hb fun _ => costs_interior_unclosedBehind hb m
    have hlf : (b == '\n') = false := by
      rw [beq_eq_false_iff_ne]
      rintro rfl
      exact absurd hb (by decide)
    have hline : Costs (next size (b == '\n') (unclosedLine .lf ++ unclosedBehind b m))
        (unclosedBehindCost m + 10) := by
      rw [hlf]
      exact costs_next_inside size (costs_next_inside size (costs_next_inside size
        (costs_next_inside size (costs_next_inside size ih))))
    have hnext := costs_next_cons size true hblock hline
    rwa [show 6 * m + 1 + 10 + (unclosedBehindCost m + 10) + 1 = unclosedBehindCost (m + 1) by
      rw [unclosedBehindCost]; omega] at hnext

end

theorem crlf_unclosed (n m : Nat) : Text.crlf (unclosed .lf n m) = unclosed .crlf n m := by
  induction m with
  | zero =>
    rw [unclosed, unclosed]
    induction n with
    | zero => rfl
    | succ n ih => rw [emptyLines, Text.crlf_append, ih]; rfl
  | succ m ih => rw [unclosed, Text.crlf_append, ih]; rfl

/-! ### Interiors that are too long -/

/-- A search gives up if it takes more than the limit. -/
theorem givesUp_of_takes {t : Text} {c : Nat} (h : Takes (block t.length t) c) (hc : limit < c) :
    givesUp t = true := by
  obtain ⟨b, hb⟩ := exists_next_eq_orElse t.length t
  rw [givesUp, givesUpFrom, hb, h.orElse_left b limit hc]

/-- Text without backticks holds no closing fence, and every character of it costs one retreat. -/
theorem takes_interior {t : Text} (h : '\x60' ∉ t) (starts : Bool) (rest : Text) :
    Takes (interior [] r starts (t ++ rest)) t.length := by
  induction t generalizing starts with
  | nil => exact takes_zero _
  | cons c t ih =>
    rw [List.mem_cons, not_or] at h
    have hclosing : behindClosing? [] (c :: (t ++ rest)) = none := by
      rw [behindClosing?, List.nil_append, fenceMark, Text.after?, if_neg h.1]
      rfl
    rw [List.cons_append, interior_cons fun _ => hclosing]
    exact (ih h.2 _).retreat

/-- **A long interior is too long for a search.** -/
theorem givesUp_of_long_interior {language t rest : Text}
    (hlanguage : ∀ c ∈ language, isLanguageChar c = true) (h : '\x60' ∉ t)
    (hlong : limit < t.length) :
    givesUp (fenceMark ++ (language ++ '\n' :: (t ++ rest))) = true := by
  generalize hall : fenceMark ++ (language ++ '\n' :: (t ++ rest)) = all
  have hindent : Text.indent all = [] := hall ▸ rfl
  have hblank : ∀ c ∈ all.head?, isTabOrSpace c = false := by
    subst hall
    intro c hc
    cases hc
    rfl
  have hmarker : Costs (marker all.length fence all) 1 :=
    (costs_word_of_none (hall ▸ rfl)).many_of_head? hblank
  have hfence : Takes (fence .absent all) t.length := by
    rw [fence, hindent, opening, blanks]
    refine Takes.many ?_
    rw [show all.dropWhile isTabOrSpace = all from hall ▸ rfl, ← hall]
    refine Takes.word_append (Takes.many ?_) fenceMark
    rw [List.dropWhile_append_of_pos hlanguage, List.dropWhile_cons_of_neg (by decide)]
    refine Takes.many ?_
    rw [List.dropWhile_cons_of_neg (by decide)]
    exact (takes_interior h true rest).newline_lf
  exact givesUp_of_takes (hfence.orElse_right hmarker) hlong

end Search

end FenceSync
