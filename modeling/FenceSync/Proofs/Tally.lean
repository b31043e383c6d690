import FenceSync.Proofs.Splitting

namespace FenceSync

/-!
# Counting newlines

* `tallyFrom_add` says that every line feed is counted once, as one kind of newline or the other.
* `occurrencesIn_marks` counts the places at which one of the newlines stands, whether or not a CR
  stands before a line feed.
* `tallyFrom_append` counts the newlines of two parts; a CR at the end of the first part matters for
  the second one.
* `Text.tally_lf_joinLines_eq_zero_iff` looks for them in lines that end with CR LF.
* `Text.lf_notMem_of_isPiece_crlf` says that a text that is not cut at CR LF, and has no bare line
  feed, has no line feed at all; `Text.lf_notMem_of_mem_splitOn` says it of all pieces of a text.
-/

/-- The newlines of two parts. -/
instance : Add Tally := ⟨fun m n => ⟨m.crlf + n.crlf, m.lf + n.lf⟩⟩

theorem Tally.add_eq (m n : Tally) : m + n = ⟨m.crlf + n.crlf, m.lf + n.lf⟩ := rfl

@[simp] theorem Tally.zero_add (n : Tally) : ⟨0, 0⟩ + n = n := by
  rw [Tally.add_eq, Nat.zero_add, Nat.zero_add]

@[simp] theorem Tally.add_zero (n : Tally) : n + ⟨0, 0⟩ = n := rfl

theorem Tally.add_assoc (l m n : Tally) : l + m + n = l + (m + n) := by
  simp only [Tally.add_eq, Nat.add_assoc]

/-- What stands right before the end of a list, or before the list if it is empty. -/
theorem elim_getLast?_cons {α β : Type} (after : β) (f : α → β) (x : α) (xs : List α) :
    (x :: xs).getLast?.elim after f = xs.getLast?.elim (f x) f := by
  cases xs with
  | nil => rfl
  | cons y ys => rw [List.getLast?_cons_cons, List.getLast?_eq_some_getLast (by simp)]; rfl

section
variable {α : Type} [DecidableEq α] {cr lf : α}

theorem tallyFrom_of_ne {x : α} (h : x ≠ lf) (after : Bool) (xs : List α) :
    tallyFrom cr lf after (x :: xs) = tallyFrom cr lf (x = cr) xs := by
  rw [tallyFrom, if_pos h]

theorem tallyFrom_bare (xs : List α) :
    tallyFrom cr lf false (lf :: xs) =
      { tallyFrom cr lf (lf = cr) xs with lf := (tallyFrom cr lf (lf = cr) xs).lf + 1 } := by
  rw [tallyFrom, if_neg (by simp), if_neg Bool.false_ne_true]

theorem tallyFrom_paired (xs : List α) :
    tallyFrom cr lf true (lf :: xs) =
      { tallyFrom cr lf (lf = cr) xs with crlf := (tallyFrom cr lf (lf = cr) xs).crlf + 1 } := by
  rw [tallyFrom, if_neg (by simp), if_pos rfl]

theorem elim_getLast?_of_ne {xs : List α} (h : xs.getLast? ≠ some cr) :
    (xs.getLast?.elim false fun x => decide (x = cr)) = false := by
  cases hlast : xs.getLast? with
  | none => rfl
  | some x =>
    rw [hlast] at h
    exact decide_eq_false fun hx => h (congrArg some hx)

/-- What stands first is counted by what stands before it, and the rest by what stands first. -/
theorem tallyFrom_cons (after : Bool) (x : α) (xs : List α) :
    tallyFrom cr lf after (x :: xs) =
      tallyFrom cr lf after [x] + tallyFrom cr lf (x = cr) xs := by
  by_cases hx : x = lf
  · subst hx
    cases after <;> simp [tallyFrom, Tally.add_eq, Nat.add_comm]
  · rw [tallyFrom_of_ne hx, tallyFrom_of_ne hx, tallyFrom, Tally.zero_add]

/-- **The newlines of two parts.**  Only what stands right before the second part decides how its
    first line feed is counted. -/
theorem tallyFrom_append (after : Bool) (xs ys : List α) :
    tallyFrom cr lf after (xs ++ ys) =
      tallyFrom cr lf after xs +
        tallyFrom cr lf (xs.getLast?.elim after fun x => x = cr) ys := by
  induction xs generalizing after with
  | nil => exact (Tally.zero_add _).symm
  | cons x xs ih =>
    rw [List.cons_append, tallyFrom_cons, ih, elim_getLast?_cons, tallyFrom_cons after x xs,
      Tally.add_assoc]

/-- Without a line feed there is no newline. -/
theorem tallyFrom_of_notMem {xs : List α} (h : lf ∉ xs) (after : Bool) :
    tallyFrom cr lf after xs = ⟨0, 0⟩ := by
  induction xs generalizing after with
  | nil => rfl
  | cons x xs ih =>
    rw [List.mem_cons, not_or] at h
    rw [tallyFrom_of_ne (Ne.symm h.1), ih h.2]

/-- Other characters than CR and LF are passed over. -/
theorem tallyFrom_append_of_notMem {xs : List α} (hcr : cr ∉ xs) (hlf : lf ∉ xs) (hne : xs ≠ [])
    (after : Bool) (ys : List α) :
    tallyFrom cr lf after (xs ++ ys) = tallyFrom cr lf false ys := by
  have hlast : xs.getLast hne ≠ cr := fun h => hcr (h ▸ List.getLast_mem hne)
  rw [tallyFrom_append, tallyFrom_of_notMem hlf, Tally.zero_add,
    List.getLast?_eq_some_getLast hne, Option.elim_some, decide_eq_false hlast]

/-- Every line feed is counted once. -/
theorem tallyFrom_add (after : Bool) (xs : List α) :
    (tallyFrom cr lf after xs).crlf + (tallyFrom cr lf after xs).lf = xs.count lf := by
  induction xs generalizing after with
  | nil => rfl
  | cons x xs ih =>
    have h := ih (x = cr)
    by_cases hx : x = lf
    · subst hx
      rw [List.count_cons_self]
      cases after with
      | true => rw [tallyFrom_paired]; simp only; omega
      | false => rw [tallyFrom_bare]; simp only; omega
    · rw [tallyFrom_of_ne hx, List.count_cons_of_ne hx]
      exact h

/-- At how many places of a list another one stands. -/
def occurrencesIn (w xs : List α) : Nat :=
  (List.range xs.length).countP fun i => w <+: xs.drop i

theorem occurrencesIn_cons (w : List α) (x : α) (xs : List α) :
    occurrencesIn w (x :: xs) = occurrencesIn w xs + if w <+: x :: xs then 1 else 0 := by
  rw [occurrencesIn, List.length_cons, List.range_succ_eq_map, List.countP_cons, List.countP_map]
  simp only [decide_eq_true_eq]
  rfl

theorem occurrencesIn_singleton (x : α) (xs : List α) : occurrencesIn [x] xs = xs.count x := by
  induction xs with
  | nil => rfl
  | cons y xs ih =>
    rw [occurrencesIn_cons, ih, List.count_cons]
    simp [eq_comm (a := x)]

/-- The line feeds after a CR, the first one of which may stand at the very beginning. -/
theorem tallyFrom_crlf (hne : cr ≠ lf) (after : Bool) (xs : List α) :
    (tallyFrom cr lf after xs).crlf =
      occurrencesIn [cr, lf] xs + if after = true ∧ [lf] <+: xs then 1 else 0 := by
  induction xs generalizing after with
  | nil => simp [tallyFrom, occurrencesIn]
  | cons x xs ih =>
    rw [occurrencesIn_cons]
    by_cases hx : x = lf
    · subst hx
      have hrest := ih false
      cases after with
      | true => simpa [tallyFrom_paired, hne, Ne.symm hne] using hrest
      | false => simpa [tallyFrom_bare, hne, Ne.symm hne] using hrest
    · rw [tallyFrom_of_ne hx, ih]
      simp [Ne.symm hx, eq_comm]

/-- A newline in the given characters. -/
def Newline.marks (cr lf : α) : Newline → List α
  | .lf => [lf]
  | .crlf => [cr, lf]

theorem Newline.text_eq_marks (nl : Newline) : nl.text = nl.marks '\r' '\n' := by
  cases nl <;> rfl

theorem Newline.utf8_text (nl : Newline) : Text.utf8 nl.text = nl.marks 0x0D 0x0A := by
  cases nl <;> rfl

/-- How many newlines of a kind have been counted; a CR LF ends with a line feed. -/
def Tally.count (n : Tally) : Newline → Nat
  | .lf => n.crlf + n.lf
  | .crlf => n.crlf

/-- **A newline stands where it has been counted.** -/
theorem occurrencesIn_marks (hne : cr ≠ lf) (nl : Newline) (xs : List α) :
    occurrencesIn (nl.marks cr lf) xs = (tallyFrom cr lf false xs).count nl := by
  cases nl with
  | lf => exact (occurrencesIn_singleton lf xs).trans (tallyFrom_add false xs).symm
  | crlf => rw [Newline.marks, Tally.count, tallyFrom_crlf hne]; simp

/-- A newline that stands in the first part of a list stands in the list. -/
theorem occurrencesIn_mono {xs ys : List α} (w : List α) (h : xs <+: ys) :
    occurrencesIn w xs ≤ occurrencesIn w ys := by
  obtain ⟨zs, rfl⟩ := h
  induction xs with
  | nil => exact Nat.zero_le _
  | cons x xs ih =>
    have hhere : (if w <+: x :: xs then 1 else 0) ≤ if w <+: x :: (xs ++ zs) then 1 else 0 := by
      by_cases hw : w <+: x :: xs
      · have hlong : w <+: x :: (xs ++ zs) := hw.trans (List.prefix_append (x :: xs) zs)
        exact Nat.le_of_eq ((if_pos hw).trans (if_pos hlong).symm)
      · rw [if_neg hw]
        exact Nat.zero_le _
    rw [List.cons_append, occurrencesIn_cons, occurrencesIn_cons]
    exact Nat.add_le_add ih hhere

end

namespace Text

theorem occurrences_eq (w t : Text) : occurrences w t = occurrencesIn w t := by
  induction t with
  | nil => rfl
  | cons c t ih =>
    rw [occurrences, occurrencesIn_cons, ih, Nat.add_comm]
    simp only [List.isPrefixOf_iff_prefix]

theorem occurrences_newline (nl : Newline) (t : Text) :
    occurrences nl.text t = (tally t).count nl := by
  rw [occurrences_eq, nl.text_eq_marks, occurrencesIn_marks (by decide), tally]

/-- The bare line feeds of two parts, unless a CR right before the second one makes up a newline with
    its first character. -/
theorem tally_lf_append {a : Text} (ha : a.getLast? ≠ some '\r') (b : Text) :
    (tally (a ++ b)).lf = (tally a).lf + (tally b).lf := by
  rw [tally, tallyFrom_append, elim_getLast?_of_ne ha]
  rfl

/-- **A part of a text without bare line feeds has none either**, unless a CR right before it makes
    up a newline with its first character. -/
theorem tally_lf_of_append {a p b : Text} (h : (tally (a ++ p ++ b)).lf = 0)
    (ha : a.getLast? ≠ some '\r') : (tally p).lf = 0 := by
  rw [List.append_assoc, tally_lf_append ha, tally, tally, tallyFrom_append, Tally.add_eq] at h
  rw [tally]
  simp only at h
  omega

/-- Without a line feed none is bare. -/
theorem tally_lf_of_notMem {t : Text} (h : '\n' ∉ t) : (tally t).lf = 0 := by
  rw [tally, tallyFrom_of_notMem h]

/-- The line feed of a CR LF is not bare, and what follows it is counted on its own. -/
theorem tally_lf_append_crlf (p t : Text) :
    (tally (p ++ Newline.crlf.text ++ t)).lf = (tally p).lf + (tally t).lf := by
  have hcut : p ++ Newline.crlf.text ++ t = p ++ '\r' :: '\n' :: t := by simp [Newline.text]
  rw [hcut, tally, tallyFrom_append, tallyFrom_of_ne (by decide), decide_eq_true rfl,
    tallyFrom_paired]
  rfl

/-- Lines that end with CR LF hold a bare line feed if one of them does. -/
theorem tally_lf_joinLines_eq_zero_iff {ps : List Text} :
    (tally (joinLines .crlf ps)).lf = 0 ↔ ∀ p ∈ ps, (tally p).lf = 0 := by
  induction ps with
  | nil => simp [tally, tallyFrom]
  | cons p ps ih =>
    rw [joinLines_cons, tally_lf_append_crlf, Nat.add_eq_zero_iff, ih, List.forall_mem_cons]

/-- A text that is not cut at line feeds has none. -/
theorem lf_notMem_of_isPiece_lf {p : Text} (hp : IsPiece .lf p) : '\n' ∉ p := by
  intro hlf
  obtain ⟨a, b, rfl⟩ := List.append_of_mem hlf
  refine not_isPiece_append_newline .lf a b ?_
  simpa [Newline.text] using hp

/-- A text that is not cut at CR LF has bare line feeds only. -/
theorem lf_notMem_of_isPiece_crlf {p : Text} (hp : IsPiece .crlf p) (h : (tally p).lf = 0) :
    '\n' ∉ p := by
  intro hlf
  obtain ⟨a, b, rfl⟩ := List.append_of_mem hlf
  by_cases ha : a.getLast? = some '\r'
  · obtain ⟨a', rfl⟩ := List.getLast?_eq_some_iff.mp ha
    refine not_isPiece_append_newline .crlf a' b ?_
    simpa [Newline.text] using hp
  · have hbare : (tally ('\n' :: b)).lf = 0 := by
      refine tally_lf_of_append (a := a) (b := []) ?_ ha
      rwa [List.append_nil]
    rw [tally, tallyFrom_bare] at hbare
    cases hbare

/-- **A text is cut at all of its line feeds**, if it is cut at bare ones or has none. -/
theorem lf_notMem_of_mem_splitOn {nl : Newline} {t p : Text}
    (h : nl = .lf ∨ (tally t).lf = 0) (hp : p ∈ splitOn nl.text t) : '\n' ∉ p := by
  have hpiece := isPiece_of_mem_splitOn nl hp
  cases nl with
  | lf => exact lf_notMem_of_isPiece_lf hpiece
  | crlf =>
    have hbare : (tally t).lf = 0 := h.resolve_left (by decide)
    have hjoin := tally_lf_append_crlf t []
    rw [List.append_nil, ← joinLines_splitOn, hbare] at hjoin
    exact lf_notMem_of_isPiece_crlf hpiece (tally_lf_joinLines_eq_zero_iff.mp hjoin p hp)

/-- Without bare line feeds the prevailing newline is CR LF. -/
theorem newline_eq_crlf {t : Text} (h : (tally t).lf = 0) (hlf : '\n' ∈ t) :
    newline t = .crlf := by
  have hadd : (tally t).crlf + (tally t).lf = t.count '\n' := tallyFrom_add false t
  have hpos : 0 < t.count '\n' := List.count_pos_iff.mpr hlf
  rw [newline, Tally.newline, if_pos (by omega)]

end Text

end FenceSync
