import FenceSync.Proofs.Fences
import FenceSync.Proofs.Trimming

namespace FenceSync

/-!
# Directives that are written and read again

The directives that a text can stand for are those that are read back from their usual spelling.

* `natOfDigits?_ofNat` says that a numeral is read back.
* `EndsInRange` is the shape of a path with a range, and `cutRange?_eq_some_iff` says that
  `cutRange?` cuts exactly such texts; a range holds no number sign, so that there is one way only.
* `Directive.IsCanonical` are the directives that can be read, and `Directive.ofText?_round_trip` is
  the full statement: nothing else is read, and each of them is read back from its spelling.
-/

/-! ### Numerals -/

theorem digitValue?_of_isDigit {c : Char} (h : c.isDigit = true) :
    digitValue? c = some (c.toNat - '0'.toNat) := by
  obtain ⟨hlow, hhigh⟩ := Char.isDigit_iff_toNat.mp h
  exact if_pos ⟨hlow, hhigh⟩

/-- ASCII digits have the value that they have in base ten. -/
theorem natOfDigits?_of_isDigit {digits : List Char} (h : ∀ c ∈ digits, c.isDigit = true) :
    natOfDigits? digits = some (Nat.ofDigitChars 10 digits 0) := by
  rw [natOfDigits?]
  generalize 0 = n
  induction digits generalizing n with
  | nil => rfl
  | cons c digits ih =>
    rw [List.foldlM_cons, digitValue?_of_isDigit (h c (by simp)), Option.map_some,
      Nat.ofDigitChars_cons]
    exact ih (fun d hd => h d (List.mem_cons_of_mem _ hd)) _

theorem isDigit_of_mem_ofNat {n : Nat} {c : Char} (h : c ∈ Text.ofNat n) : c.isDigit = true :=
  Nat.isDigit_of_mem_toDigits (by decide) (by decide) h

/-- A numeral is read back. -/
theorem natOfDigits?_ofNat (n : Nat) : natOfDigits? (Text.ofNat n) = some n := by
  rw [natOfDigits?_of_isDigit fun c hc => isDigit_of_mem_ofNat hc, Text.ofNat,
    Nat.ofDigitChars_toDigits (by decide) (by decide)]

theorem boundOfDigits?_ofNat {n : Nat} (h : n < boundLimit) :
    boundOfDigits? (Text.ofNat n) = some n := by
  rw [boundOfDigits?, natOfDigits?_ofNat]
  exact if_pos h

theorem boundOfDigits?_lt {digits : Text} {n : Nat} (h : boundOfDigits? digits = some n) :
    n < boundLimit := by
  unfold boundOfDigits? at h
  split at h
  · split at h
    · next hlt => exact Option.some.inj h ▸ hlt
    · cases h
  · cases h

/-! ### Bounds -/

/-- A run of decimal digits, of any script. -/
def IsDigits (t : Text) : Prop := t ≠ [] ∧ ∀ c ∈ t, isDigit c = true

/-- A bound with the given digits, behind an `L` or without. -/
def IsBound (digits bound : Text) : Prop :=
  IsDigits digits ∧ (bound = digits ∨ bound = 'L' :: digits)

theorem IsBound.notMem {digits bound : Text} (h : IsBound digits bound) {c : Char}
    (hdigit : isDigit c = false) (hL : c ≠ 'L') : c ∉ bound := by
  have hdigits : c ∉ digits := fun hc => by simp [h.1.2 c hc] at hdigit
  rcases h.2 with rfl | rfl
  · exact hdigits
  · simp [hL, hdigits]

/-- The bound of a usual spelling. -/
theorem isBound_lineBound (n : Nat) : IsBound (Text.ofNat n) (lineBound n) := by
  refine ⟨⟨Nat.toDigits_ne_nil, fun c hc => ?_⟩, .inr rfl⟩
  exact isDigit_of_digitValue? (digitValue?_of_isDigit (isDigit_of_mem_ofNat hc))

/-- A bound is cut off in front of anything but a digit. -/
theorem cutBound?_append {digits bound : Text} (h : IsBound digits bound) {rest : Text}
    (hrest : ∀ c ∈ rest.head?, isDigit c = false) :
    cutBound? (bound ++ rest) = some (digits, rest) := by
  have hcut := Fence.takeWhile_append_eq h.1.2 hrest
  have hbehind : (Text.after? ['L'] (bound ++ rest)).getD (bound ++ rest) = digits ++ rest := by
    rcases h.2 with rfl | rfl
    · obtain ⟨c, t, ht⟩ := List.exists_cons_of_ne_nil h.1.1
      have hc : isDigit c = true := h.1.2 c (by simp [ht])
      have hne : 'L' ≠ c := by
        rintro rfl
        exact absurd hc (by decide)
      rw [ht, List.cons_append, Text.after?, if_neg hne]
      rfl
    · rfl
  rw [cutBound?, hbehind, hcut.1, hcut.2]
  exact if_neg h.1.1

theorem exists_bound_of_cutBound? {t digits rest : Text} (h : cutBound? t = some (digits, rest)) :
    ∃ bound, IsBound digits bound ∧ t = bound ++ rest := by
  unfold cutBound? at h
  generalize hu : (Text.after? ['L'] t).getD t = u at h
  dsimp only at h
  split at h
  · cases h
  · next hne =>
    cases h
    have hdigits : IsDigits (u.takeWhile isDigit) := ⟨hne, fun c hc => List.mem_takeWhile_imp hc⟩
    have hcut : u = u.takeWhile isDigit ++ u.dropWhile isDigit :=
      List.takeWhile_append_dropWhile.symm
    cases hL : Text.after? ['L'] t with
    | none =>
      rw [hL, Option.getD_none] at hu
      exact ⟨_, ⟨hdigits, .inl rfl⟩, hu.trans hcut⟩
    | some t' =>
      rw [hL, Option.getD_some] at hu
      subst hu
      exact ⟨_, ⟨hdigits, .inr rfl⟩,
        (Text.eq_append_of_after? hL).trans (congrArg ('L' :: ·) hcut)⟩

/-- Two bounds are cut exactly where they meet. -/
theorem cutBounds?_eq_some_iff {t a b : Text} :
    cutBounds? t = some (a, b) ↔
      ∃ first second, IsBound a first ∧ IsBound b second ∧ t = first ++ '-' :: second := by
  constructor
  · intro h
    unfold cutBounds? at h
    split at h
    · next first rest hfirst =>
      split at h
      · next second hsecond =>
        cases h
        obtain ⟨bound, hbound, rfl⟩ := exists_bound_of_cutBound? hfirst
        obtain ⟨bound', hbound', rfl⟩ := exists_bound_of_cutBound? hsecond
        exact ⟨bound, bound', hbound, hbound', by rw [List.append_nil]⟩
      · cases h
    · cases h
  · rintro ⟨first, second, hfirst, hsecond, rfl⟩
    have hhyphen : ∀ c ∈ ('-' :: second).head?, isDigit c = false := by
      intro c hc
      cases hc
      decide
    have hlast : cutBound? (second ++ []) = some (b, []) := cutBound?_append hsecond (by simp)
    rw [List.append_nil] at hlast
    rw [cutBounds?, cutBound?_append hfirst hhyphen]
    simp only
    rw [hlast]

/-! ### Paths with a range -/

/-- A path that is not empty, a number sign, and two bounds with a hyphen between them. -/
def IsRanged (path a b t : Text) : Prop :=
  path ≠ [] ∧ ∃ first second, IsBound a first ∧ IsBound b second ∧
    t = path ++ '#' :: (first ++ '-' :: second)

/-- The text reads as a path with a range. -/
def EndsInRange (t : Text) : Prop := ∃ path a b, IsRanged path a b t

/-- The part behind the last number sign of a text. -/
theorem cut_last_numberSign (path : Text) {bounds : Text} (h : '#' ∉ bounds) :
    (path ++ '#' :: bounds).reverse.takeWhile (· ≠ '#') = bounds.reverse ∧
      (path ++ '#' :: bounds).reverse.dropWhile (· ≠ '#') = '#' :: path.reverse := by
  have hreverse : (path ++ '#' :: bounds).reverse = bounds.reverse ++ '#' :: path.reverse := by
    simp
  rw [hreverse]
  refine Fence.takeWhile_append_eq (fun c hc => ?_) (by simp)
  rw [decide_eq_true_eq]
  rintro rfl
  exact h (List.mem_reverse.mp hc)

/-- **A range is cut off exactly where one stands.** -/
theorem cutRange?_eq_some_iff {t path a b : Text} :
    cutRange? t = some (path, a, b) ↔ IsRanged path a b t := by
  constructor
  · intro h
    unfold cutRange? at h
    split at h
    · next c more hdrop =>
      split at h
      · next first second hbounds =>
        cases h
        obtain ⟨bound, bound', hbound, hbound', hcut⟩ := cutBounds?_eq_some_iff.mp hbounds
        refine ⟨by simp, bound, bound', hbound, hbound', ?_⟩
        have ht : t.reverse = t.reverse.takeWhile (· ≠ '#') ++ '#' :: c :: more := by
          rw [← hdrop, List.takeWhile_append_dropWhile]
        have ht' := congrArg List.reverse ht
        rw [List.reverse_reverse, List.reverse_append, hcut] at ht'
        rw [ht']
        simp
      · cases h
    · cases h
  · rintro ⟨hpath, first, second, hfirst, hsecond, rfl⟩
    -- Bounds are made of digits, `L` and a hyphen.
    have hsign : '#' ∉ first ++ '-' :: second := by
      have hfirst' := hfirst.notMem (c := '#') (by decide) (by decide)
      have hsecond' := hsecond.notMem (c := '#') (by decide) (by decide)
      simp [hfirst', hsecond']
    obtain ⟨htake, hdrop⟩ := cut_last_numberSign path hsign
    obtain ⟨c, more, hmore⟩ := List.exists_cons_of_ne_nil (List.reverse_ne_nil_iff.mpr hpath)
    rw [cutRange?, htake, hdrop, hmore, List.reverse_reverse]
    simp only
    rw [cutBounds?_eq_some_iff.mpr ⟨first, second, hfirst, hsecond, rfl⟩, ← hmore,
      List.reverse_reverse]

theorem cutRange?_eq_none_iff {t : Text} : cutRange? t = none ↔ ¬ EndsInRange t := by
  constructor
  · rintro h ⟨path, a, b, hranged⟩
    rw [cutRange?_eq_some_iff.mpr hranged] at h
    cases h
  · intro h
    rw [Option.eq_none_iff_forall_ne_some]
    rintro ⟨path, a, b⟩ hcut
    exact h ⟨path, a, b, cutRange?_eq_some_iff.mp hcut⟩

namespace Directive

/-! ### Directives that can be read -/

/-- One word: not empty, and without white space. -/
def IsWord (t : Text) : Prop := t ≠ [] ∧ ∀ c ∈ t, isSpace c = false

instance (t : Text) : Decidable (IsWord t) :=
  decidable_of_iff (t ≠ [] ∧ t.all (!isSpace ·) = true) (by simp [IsWord])

/-- The directives that a text can stand for: a file whose path is one word, with a range of bounds
    below 2^64, or without a range if the path does not end like one; or a command that is not empty
    and neither starts nor ends with white space. -/
def IsCanonical : Directive → Prop
  | .file path (some r) => IsWord path ∧ r.start < UInt64.size ∧ r.stop < UInt64.size
  | .file path none => IsWord path ∧ ¬ EndsInRange path
  | .command line => line ≠ [] ∧ Text.IsCore line

theorem IsWord.isCore {t : Text} (h : IsWord t) : Text.IsCore t :=
  ⟨fun c hc => h.2 c (List.mem_of_mem_head? hc), fun c hc => h.2 c (List.mem_of_mem_getLast? hc)⟩

theorem isWord_iff {t : Text} : IsWord t ↔ ¬ (t = [] ∨ t.any isSpace = true) := by
  rw [not_or, Bool.not_eq_true, List.any_eq_false]
  simp [IsWord]

/-- The file form is one word, with white space around it. -/
theorem file?_of_isWord {t : Text} (h : IsWord (Text.trim t)) :
    file? t = match cutRange? (Text.trim t) with
      | none => some (.file (Text.trim t) none)
      | some (path, a, b) =>
        match boundOfDigits? a, boundOfDigits? b with
        | some start, some stop => some (.file path (some ⟨start, stop⟩))
        | _, _ => none := by
  rw [file?]
  exact if_neg (isWord_iff.mp h)

theorem file?_eq_none {t : Text} (h : ¬ IsWord (Text.trim t)) : file? t = none := by
  rw [file?]
  exact if_pos (not_not.mp (mt isWord_iff.mpr h))

/-- What is read as a file has one word for a path. -/
theorem isCanonical_of_file? {t : Text} {d : Directive} (h : file? t = some d) :
    d.IsCanonical := by
  by_cases hword : IsWord (Text.trim t)
  · rw [file?_of_isWord hword] at h
    split at h
    · next hcut =>
      cases h
      exact ⟨hword, cutRange?_eq_none_iff.mp hcut⟩
    · next path a b hcut =>
      obtain ⟨hpath, first, second, -, -, ht⟩ := cutRange?_eq_some_iff.mp hcut
      split at h
      · next start stop hstart hstop =>
        cases h
        refine ⟨⟨hpath, fun c hc => hword.2 c ?_⟩, boundOfDigits?_lt hstart, boundOfDigits?_lt hstop⟩
        rw [ht]
        exact List.mem_append_left _ hc
      · cases h
  · rw [file?_eq_none hword] at h
    cases h

/-- What is read as a command, and not as a file, is not blank. -/
theorem isCanonical_of_command? {t : Text} {d : Directive} (h : command? t = some d)
    (hfile : file? t = none) : d.IsCanonical := by
  unfold command? at h
  split at h
  · next rest hrest =>
    split at h
    · next hblank =>
      -- A lone dollar sign names a file.
      have htrim : Text.trim t = ['$'] := by
        have hcore : Text.IsCore ['$'] := by simp [Text.IsCore]; decide
        have hdollar := Text.trim_eq_of_core (v := []) (by simp [Text.IsSpaces])
          (Text.isBlank_iff.mp hblank) hcore
        rw [Text.trim, hrest]
        rw [Text.trim, List.nil_append] at hdollar
        rw [← hdollar, show ['$'] ++ rest = '$' :: rest from rfl, Text.trimStart_eq_self]
        intro c hc
        cases hc
        decide
      rw [file?_of_trim_eq_dollar htrim] at hfile
      cases hfile
    · next hblank =>
      cases h
      exact ⟨fun h => hblank (Text.isBlank_iff_trim.mpr h), Text.isCore_trim rest⟩
  · cases h

/-- Nothing else is read. -/
theorem isCanonical_of_ofText? {t : Text} {d : Directive} (h : ofText? t = some d) :
    d.IsCanonical := by
  rw [ofText?] at h
  rcases Option.or_eq_some_iff.mp h with h | ⟨hfile, h⟩
  · exact isCanonical_of_file? h
  · exact isCanonical_of_command? h hfile

/-! ### Reading a spelling -/

theorem isSpace_of_isDigit {c : Char} (h : c.isDigit = true) : isSpace c = false := by
  obtain ⟨hlow, hhigh⟩ := Char.isDigit_iff_toNat.mp h
  have hlow' : 48 ≤ c.toNat := hlow
  have hhigh' : c.toNat ≤ 57 := hhigh
  simp only [isSpace, Bool.or_eq_false_iff, Bool.and_eq_false_iff, beq_eq_false_iff_ne,
    decide_eq_false_iff_not]
  omega

/-- The bound of a usual spelling holds no white space. -/
theorem isSpace_of_mem_lineBound {n : Nat} {c : Char} (h : c ∈ lineBound n) :
    isSpace c = false := by
  rcases List.mem_cons.mp h with rfl | h
  · decide
  · exact isSpace_of_isDigit (isDigit_of_mem_ofNat h)

theorem isWord_text_file {path : Text} (h : IsWord path) (r : LineRange) :
    IsWord (text (.file path (some r))) := by
  refine ⟨by simp [text], fun c hc => ?_⟩
  rw [text, List.mem_append, List.mem_append, List.mem_cons, List.mem_cons] at hc
  rcases hc with (hc | rfl | hc) | rfl | hc
  · exact h.2 c hc
  · decide
  · exact isSpace_of_mem_lineBound hc
  · decide
  · exact isSpace_of_mem_lineBound hc

/-- A spelling neither starts nor ends with white space. -/
theorem isCore_text {d : Directive} (h : d.IsCanonical) : Text.IsCore d.text := by
  match d, h with
  | .file path none, h => exact h.1.isCore
  | .file path (some r), h => exact (isWord_text_file h.1 r).isCore
  | .command line, ⟨hne, hcore⟩ =>
    refine ⟨fun c hc => ?_, fun c hc => hcore.2 c ?_⟩
    · cases hc
      decide
    · rwa [text, List.getLast?_cons_cons, List.getLast?_cons_of_ne_nil hne] at hc

/-- A spelling is read back. -/
theorem ofText?_text {d : Directive} (h : d.IsCanonical) : ofText? d.text = some d := by
  have htrim := Text.trim_eq_self (isCore_text h)
  match d, h with
  | .file path none, ⟨hword, hrange⟩ =>
    have hfile : file? (text (.file path none)) = some (.file path none) := by
      rw [file?_of_isWord (by rw [htrim]; exact hword), htrim, text,
        cutRange?_eq_none_iff.mpr hrange]
    rw [ofText?, hfile, Option.some_or]
  | .file path (some r), ⟨hword, hstart, hstop⟩ =>
    have hranged : IsRanged path (Text.ofNat r.start) (Text.ofNat r.stop)
        (text (.file path (some r))) :=
      ⟨hword.1, lineBound r.start, lineBound r.stop, isBound_lineBound r.start,
        isBound_lineBound r.stop, by simp [text]⟩
    have hfile : file? (text (.file path (some r))) = some (.file path (some r)) := by
      rw [file?_of_isWord (by rw [htrim]; exact isWord_text_file hword r), htrim,
        cutRange?_eq_some_iff.mpr hranged]
      simp only
      rw [boundOfDigits?_ofNat hstart, boundOfDigits?_ofNat hstop]
    rw [ofText?, hfile, Option.some_or]
  | .command line, ⟨hne, hcore⟩ =>
    -- The blank behind the dollar sign keeps the spelling from being one word.
    have hword : ¬ IsWord (text (.command line)) := fun hw =>
      absurd (hw.2 ' ' (by simp [text])) (by decide)
    have hspace : Text.IsSpaces [' '] := by simp [Text.IsSpaces]; decide
    have hline : Text.trim (' ' :: line) = line := by
      rw [show ' ' :: line = [' '] ++ line from rfl, Text.trim_append_left hspace,
        Text.trim_eq_self hcore]
    have hblank : Text.isBlank (' ' :: line) = false := by
      rw [Bool.eq_false_iff, Ne, Text.isBlank_iff_trim, hline]
      exact hne
    have hstart : Text.trimStart (text (.command line)) = '$' :: ' ' :: line :=
      Text.trimStart_eq_self (isCore_text (d := .command line) ⟨hne, hcore⟩).1
    rw [ofText?, file?_eq_none (by rwa [htrim]), Option.none_or,
      command?_of_dollar hstart hblank, hline]

/-- **Directives are read back from their spelling.**

    * Whatever is read is canonical.
    * A canonical directive is read from its usual spelling, with any white space around it.

    So the directives that some text stands for are exactly the canonical ones. -/
theorem ofText?_round_trip :
    (∀ t d, ofText? t = some d → d.IsCanonical) ∧
      (∀ d : Directive, d.IsCanonical → ∀ v w, Text.IsSpaces v → Text.IsSpaces w →
        ofText? (v ++ d.text ++ w) = some d) ∧
      ∀ d : Directive, (∃ t, ofText? t = some d) ↔ d.IsCanonical := by
  refine ⟨fun t d => isCanonical_of_ofText?, ?_, ?_⟩
  · intro d h v w hv hw
    have htrim := Text.trim_eq_of_core hv hw (isCore_text h)
    rw [ofText?_congr (htrim.trans (Text.trim_eq_self (isCore_text h)).symm), ofText?_text h]
  · exact fun d => ⟨fun ⟨_, ht⟩ => isCanonical_of_ofText? ht, fun h => ⟨d.text, ofText?_text h⟩⟩

/-- A path that holds number signs, and what looks like a range, in front of its range. -/
theorem ofText?_round_trip_ranges :
    let d : Directive := .file "a#b#L1-L2".toList (some ⟨3, 18446744073709551615⟩)
    d.IsCanonical ∧
      ofText? "\t a#b#L1-L2#L3-L18446744073709551615\u00A0".toList = some d := by
  intro d
  have hd : d.IsCanonical := by
    refine ⟨⟨by decide, fun c hc => ?_⟩, by decide, by decide⟩
    simpa using List.all_eq_true.mp (show "a#b#L1-L2".toList.all (!isSpace ·) = true by decide) c hc
  obtain ⟨-, hread, -⟩ := ofText?_round_trip
  exact ⟨hd, hread d hd "\t ".toList "\u00A0".toList (by simp [Text.IsSpaces]; decide)
    (by simp [Text.IsSpaces]; decide)⟩

end Directive

end FenceSync
