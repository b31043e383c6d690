import FenceSync.Proofs.Encoding
import FenceSync.Proofs.Splicing
import Mathlib.Order.Monotone.Defs

namespace FenceSync

/-!
# Lines by the offset

A place in a text is given by the number of bytes in front of it.  Newlines are counted wherever they
stand among these bytes, while a text is cut at one newline behind the other.

* `Text.exists_take_utf8` takes the bytes in front of a place apart; the place may lie inside a
  character, of which no byte belongs to a newline.
* `Text.lineNumber_eq_occurrencesIn` counts the newlines among these bytes, and
  `Text.lineNumber_mono` says that there are not fewer of them further on.
* `Text.lineNumber_eq_length_splitOn` counts the pieces of a slice that ends at the place.
* `Text.lineNumber_counts_pieces` is the full statement.
-/

namespace Text

/-! ### Bytes in front of a place -/

/-- The bytes in front of a place are whole characters, and the first bytes of another one if the
    place lies inside it. -/
theorem exists_take_utf8 (t : Text) (n : Nat) :
    ∃ u, 0x0A ∉ u ∧ (utf8 t).take n = utf8 (takeBytes n t) ++ u := by
  induction t generalizing n with
  | nil => exact ⟨[], by simp, by simp [takeBytes, utf8]⟩
  | cons c t ih =>
    have hlen : (String.utf8EncodeChar c).length = c.utf8Size := String.length_utf8EncodeChar c
    have hcons : ∀ s, utf8 (c :: s) = String.utf8EncodeChar c ++ utf8 s := fun _ =>
      List.flatMap_cons
    rw [takeBytes, hcons, List.take_append, hlen]
    split
    · next hle =>
      obtain ⟨u, hu, htake⟩ := ih (n - c.utf8Size)
      refine ⟨u, hu, ?_⟩
      rw [htake, List.take_of_length_le (hlen ▸ hle), hcons, List.append_assoc]
    · next hlt =>
      -- Of a single byte nothing would be left, so that the character is not a line feed.
      refine ⟨(String.utf8EncodeChar c).take n, ?_, ?_⟩
      · rcases Nat.eq_zero_or_pos n with rfl | hpos
        · rw [List.take_zero]
          exact List.not_mem_nil
        · have hlong : 1 < (String.utf8EncodeChar c).length := by omega
          exact fun hlf =>
            (Utf8.newline_notMem_encode_of_one_lt hlong).2 (List.mem_of_mem_take hlf)
      · rw [Nat.sub_eq_zero_of_le (by omega), List.take_zero, List.append_nil]
        rfl

/-- The newlines in front of a place are those of the whole characters there. -/
theorem tally_take_utf8 (t : Text) (n : Nat) :
    Bytes.tally ((utf8 t).take n) = tally (takeBytes n t) := by
  obtain ⟨u, hu, htake⟩ := exists_take_utf8 t n
  rw [htake, Bytes.tally, tallyFrom_append, tallyFrom_of_notMem hu, Tally.add_zero, ← Bytes.tally,
    Bytes.tally_utf8]

/-- All bytes of a text are in front of a place beyond it. -/
theorem takeBytes_min (t : Text) (n : Nat) : takeBytes (min n (size t)) t = takeBytes n t := by
  induction t generalizing n with
  | nil => rfl
  | cons c t ih =>
    rw [takeBytes, takeBytes, size_cons]
    by_cases hle : c.utf8Size ≤ n
    · rw [if_pos hle, if_pos (by omega), ← ih (n - c.utf8Size)]
      congr 2
      omega
    · rw [if_neg hle, if_neg (by omega)]

/-- A slice from the beginning consists of the characters in front of its end. -/
theorem IsSlice.takeBytes_eq {t part : Text} {n : Nat} (h : t.IsSlice 0 n part) :
    takeBytes n t = part := by
  obtain ⟨x, y, rfl, hx, rfl⟩ := h
  obtain rfl : x = [] := by
    by_contra hne
    exact absurd hx (Nat.ne_of_gt (size_pos hne))
  exact takeBytes_append _ y

/-! ### Line numbers -/

variable (nl : Newline) (t : Text)

/-- **Lines are counted by the newlines among the bytes in front of a place**, which may lie inside a
    newline or a character, or beyond the text. -/
theorem lineNumber_eq_occurrencesIn (offset : Nat) :
    lineNumber nl.text t offset =
      1 + occurrencesIn (utf8 nl.text) ((utf8 t).take offset) := by
  rw [lineNumber, occurrences_newline, ← tally_take_utf8, Newline.utf8_text,
    occurrencesIn_marks (by decide), Bytes.tally]

/-- A line number does not fall as the place moves on. -/
theorem lineNumber_mono : Monotone (lineNumber nl.text t) := by
  intro m n h
  rw [lineNumber_eq_occurrencesIn, lineNumber_eq_occurrencesIn]
  exact Nat.add_le_add_left (occurrencesIn_mono _ (List.take_prefix_take_left h)) 1

/-- **The line of a place is the number of the pieces in front of it**, the one that is cut off at
    the place included. -/
theorem lineNumber_eq_length_splitOn {t part : Text} {offset : Nat}
    (h : t.IsSlice 0 (min offset (size t)) part) :
    lineNumber nl.text t offset = (splitOn nl.text part).length := by
  rw [length_splitOn, lineNumber, ← takeBytes_min, h.takeBytes_eq]

/-- **Lines are counted as they are cut.**  Up to the end of any slice from the beginning there are as
    many lines as the slice has pieces, and a place beyond the text counts as its end.  At every
    place, inside a character as well, it is the newlines among the bytes in front of it that are
    counted, overlapping or not; there are not fewer of them further on.  The pieces are the only
    ones that hold no newline and make up the text with newlines between them. -/
theorem lineNumber_counts_pieces :
    (∀ offset part, t.IsSlice 0 (min offset (size t)) part →
        lineNumber nl.text t offset = (splitOn nl.text part).length) ∧
      (∀ offset, lineNumber nl.text t offset =
        1 + occurrencesIn (utf8 nl.text) ((utf8 t).take offset)) ∧
      Monotone (lineNumber nl.text t) ∧
      ∀ ps, ps = splitOn nl.text t ↔
        ps ≠ [] ∧ joinWith nl.text ps = t ∧ ∀ p ∈ ps, ¬ nl.text <:+: p :=
  ⟨fun _ _ => lineNumber_eq_length_splitOn nl, lineNumber_eq_occurrencesIn nl t,
    lineNumber_mono nl t, fun _ => eq_splitOn_iff nl⟩

/-- Two CR in front of a line feed, a place right between the CR LF, and one beyond the text. -/
theorem lineNumber_counts_pieces_inside_newline :
    let t : Text := "é\r\r\nx\n\r\n".toList
    let nl := Newline.crlf
    t.IsSlice 0 (min 4 (size t)) "é\r\r".toList ∧ lineNumber nl.text t 4 = 1 ∧
      lineNumber nl.text t 5 = 2 ∧ t.IsSlice 0 (min 100 (size t)) t ∧
      lineNumber nl.text t 100 = 3 ∧ lineNumber nl.text t 5 ≤ lineNumber nl.text t 100 ∧
      splitOn nl.text t = ["é\r".toList, "x\n".toList, []] := by
  intro t nl
  obtain ⟨hcut, -, hmono, hpieces⟩ := lineNumber_counts_pieces nl t
  have hinside : t.IsSlice 0 (min 4 (size t)) "é\r\r".toList :=
    ⟨[], "\nx\n\r\n".toList, by decide, rfl, by decide⟩
  have hbehind : t.IsSlice 0 (min 5 (size t)) "é\r\r\n".toList :=
    ⟨[], "x\n\r\n".toList, by decide, rfl, by decide⟩
  have hbeyond : t.IsSlice 0 (min 100 (size t)) t := ⟨[], [], by decide, rfl, by decide⟩
  refine ⟨hinside, (hcut 4 _ hinside).trans (by decide), (hcut 5 _ hbehind).trans (by decide),
    hbeyond, (hcut 100 t hbeyond).trans (by decide), hmono (by decide), ?_⟩
  exact ((hpieces _).mpr (by decide)).symm

end Text

end FenceSync
