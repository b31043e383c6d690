import FenceSync.Proofs.Spelling

namespace FenceSync

/-!
# Files and commands

A directive text of one word names a file, and one with white space inside is a command if it starts
with a dollar sign.  There is one exception: a word that ends in a range with a bound that cannot be
read names no file, and is then read as a command like a text of several words.

* `StandsFor` says which number a bound stands for, and `boundOfDigits?_eq_some_iff` that
  `boundOfDigits?` finds exactly these.
* `NamesFile` is the shape of a word that names a file, and `EndsInUnreadableRange` are the
  exceptions.
* `Directive.ofText?_forms` is the full statement.
-/

/-! ### Bounds that can be read -/

/-- The digits are those of ASCII, and the number that they make up is below 2^64. -/
def StandsFor (digits : Text) (n : Nat) : Prop :=
  (∀ c ∈ digits, c.isDigit = true) ∧ Nat.ofDigitChars 10 digits 0 = n ∧ n < UInt64.size

theorem isDigit_of_digitValue?_eq_some {c : Char} {n : Nat} (h : digitValue? c = some n) :
    c.isDigit = true := by
  unfold digitValue? at h
  split at h
  · next hrange => exact Char.isDigit_iff_toNat.mpr hrange
  · cases h

/-- Nothing but ASCII digits has a value. -/
theorem isDigit_of_natOfDigits? {digits : List Char} {n : Nat} (h : natOfDigits? digits = some n) :
    ∀ c ∈ digits, c.isDigit = true := by
  rw [natOfDigits?] at h
  generalize 0 = start at h
  induction digits generalizing start with
  | nil => simp
  | cons c digits ih =>
    rw [List.foldlM_cons] at h
    obtain ⟨m, hm, hrest⟩ := Option.bind_eq_some_iff.mp h
    obtain ⟨v, hv, -⟩ := Option.map_eq_some_iff.mp hm
    intro d hd
    rcases List.mem_cons.mp hd with rfl | hd
    · exact isDigit_of_digitValue?_eq_some hv
    · exact ih m hrest d hd

/-- **A bound is read exactly if it stands for a number.** -/
theorem boundOfDigits?_eq_some_iff {digits : Text} {n : Nat} :
    boundOfDigits? digits = some n ↔ StandsFor digits n := by
  constructor
  · intro h
    have hlimit := boundOfDigits?_lt h
    unfold boundOfDigits? at h
    split at h
    · next m hm =>
      split at h
      · have hdigits := isDigit_of_natOfDigits? hm
        rw [natOfDigits?_of_isDigit hdigits] at hm
        exact ⟨hdigits, (Option.some.inj hm).trans (Option.some.inj h), hlimit⟩
      · cases h
    · cases h
  · rintro ⟨hdigits, hvalue, hlimit⟩
    rw [boundOfDigits?, natOfDigits?_of_isDigit hdigits, hvalue]
    exact if_pos hlimit

/-- The text is a path that does not end in a range, or a path with a range of two numbers. -/
def NamesFile (path : Text) : Option LineRange → Text → Prop
  | none, t => path = t ∧ ¬ EndsInRange t
  | some r, t => ∃ a b, IsRanged path a b t ∧ StandsFor a r.start ∧ StandsFor b r.stop

/-- The text reads as a path with a range, but not both bounds stand for numbers. -/
def EndsInUnreadableRange (t : Text) : Prop :=
  ∃ path a b, IsRanged path a b t ∧ ¬ ((∃ n, StandsFor a n) ∧ ∃ n, StandsFor b n)

namespace Directive

/-! ### The two forms -/

/-- The command behind a dollar sign and white space. -/
def behindDollar? : Text → Option Directive
  | '$' :: rest => some (.command (Text.trimStart rest))
  | _ => none

/-- A trimmed text has no white space at its end, in whatever part of it. -/
theorem trim_of_isCore_cons {c : Char} {u : Text} (h : Text.IsCore (c :: u)) :
    Text.trim u = Text.trimStart u := by
  obtain ⟨w, -, hw⟩ := Text.exists_eq_trimStart u
  refine Text.trimEnd_eq_self fun d hd => h.2 d ?_
  rw [hw, ← List.cons_append, List.getLast?_append, Option.mem_def.mp hd]
  rfl

/-- The command form is what stands behind the dollar sign of the trimmed text. -/
theorem command?_eq_behindDollar? {text : Text} (h : Text.trim text ≠ ['$']) :
    command? text = behindDollar? (Text.trim text) := by
  by_cases hdollar : ∃ u, Text.trim text = '$' :: u
  · obtain ⟨u, hu⟩ := hdollar
    have hne : u ≠ [] := by
      rintro rfl
      exact h hu
    have hcore : Text.IsCore ('$' :: u) := hu ▸ Text.isCore_trim text
    have hstart : Text.trimStart ('$' :: u) = '$' :: u := Text.trimStart_eq_self hcore.1
    have hblank : Text.isBlank u = false := by
      rw [Text.isBlank, List.all_eq_false]
      refine ⟨u.getLast hne, List.getLast_mem hne, ?_⟩
      have hlast := hcore.2 (u.getLast hne)
        (by rw [List.getLast?_cons_of_ne_nil hne, List.getLast?_eq_some_getLast hne]; rfl)
      simp [hlast]
    rw [← command?_trim_of_dollar hu hne, hu, command?_of_dollar hstart hblank,
      trim_of_isCore_cons hcore]
    rfl
  · rw [behindDollar?]
    · refine command?_of_no_dollar ?_
      rintro c hc rfl
      rw [← Text.head?_trim] at hc
      exact hdollar (List.head?_eq_some_iff.mp hc)
    · exact fun u hu => hdollar ⟨u, hu⟩

/-- A word names a file, unless it ends in a range that cannot be read. -/
theorem exists_file_of_isWord {text : Text} (hword : IsWord (Text.trim text))
    (hread : ¬ EndsInUnreadableRange (Text.trim text)) :
    ∃ path range, NamesFile path range (Text.trim text) ∧
      file? text = some (.file path range) := by
  rw [file?_of_isWord hword]
  cases hcut : cutRange? (Text.trim text) with
  | none => exact ⟨_, none, ⟨rfl, cutRange?_eq_none_iff.mp hcut⟩, rfl⟩
  | some cut =>
    obtain ⟨path, a, b⟩ := cut
    have hranged := cutRange?_eq_some_iff.mp hcut
    have hbounds : (∃ n, StandsFor a n) ∧ ∃ n, StandsFor b n := by
      by_contra hno
      exact hread ⟨path, a, b, hranged, hno⟩
    obtain ⟨⟨start, hstart⟩, stop, hstop⟩ := hbounds
    simp only
    rw [boundOfDigits?_eq_some_iff.mpr hstart, boundOfDigits?_eq_some_iff.mpr hstop]
    exact ⟨path, some ⟨start, stop⟩, ⟨a, b, hranged, hstart, hstop⟩, rfl⟩

/-- A range that cannot be read keeps a word from being a file. -/
theorem file?_of_endsInUnreadableRange {text : Text} (hword : IsWord (Text.trim text))
    (hread : EndsInUnreadableRange (Text.trim text)) : file? text = none := by
  obtain ⟨path, a, b, hranged, hno⟩ := hread
  rw [file?_of_isWord hword, cutRange?_eq_some_iff.mpr hranged]
  simp only
  split
  · next start stop hstart hstop =>
    exact absurd ⟨⟨start, boundOfDigits?_eq_some_iff.mp hstart⟩,
      stop, boundOfDigits?_eq_some_iff.mp hstop⟩ hno
  · rfl

/-- Where no file is named, the command form decides.  A lone dollar sign names one. -/
theorem ofText?_of_file?_eq_none {text : Text} (h : file? text = none) :
    ofText? text = behindDollar? (Text.trim text) := by
  rw [ofText?, h, Option.none_or]
  refine command?_eq_behindDollar? fun hdollar => ?_
  rw [file?_of_trim_eq_dollar hdollar] at h
  cases h

theorem exists_behindDollar?_iff {t : Text} :
    (∃ line, behindDollar? t = some (.command line)) ↔ t.head? = some '$' := by
  constructor
  · rintro ⟨line, h⟩
    unfold behindDollar? at h
    split at h
    · rfl
    · cases h
  · intro h
    obtain ⟨rest, rfl⟩ := List.head?_eq_some_iff.mp h
    exact ⟨_, rfl⟩

/-- **Which form a directive text has.**

    * A word is a command exactly if it starts with a dollar sign and ends in a range that cannot be
      read.
    * A word that does not end in such a range names a file.
    * With such a range, and with white space inside, a text is the command behind its dollar sign,
      or nothing. -/
theorem ofText?_forms (text : Text) :
    let t := Text.trim text
    (IsWord t → ((∃ line, ofText? text = some (.command line)) ↔
      t.head? = some '$' ∧ EndsInUnreadableRange t)) ∧
    (IsWord t → ¬ EndsInUnreadableRange t →
      ∃ path range, NamesFile path range t ∧ ofText? text = some (.file path range)) ∧
    (IsWord t → EndsInUnreadableRange t → ofText? text = behindDollar? t) ∧
    ((∃ c ∈ t, isSpace c = true) → ofText? text = behindDollar? t) := by
  intro t
  have hfile : IsWord t → ¬ EndsInUnreadableRange t →
      ∃ path range, NamesFile path range t ∧ ofText? text = some (.file path range) := by
    intro hword hread
    obtain ⟨path, range, hnames, hfile⟩ := exists_file_of_isWord hword hread
    exact ⟨path, range, hnames, by rw [ofText?, hfile, Option.some_or]⟩
  have hunread : IsWord t → EndsInUnreadableRange t → ofText? text = behindDollar? t :=
    fun hword hread => ofText?_of_file?_eq_none (file?_of_endsInUnreadableRange hword hread)
  refine ⟨fun hword => ?_, hfile, hunread, ?_⟩
  · by_cases hread : EndsInUnreadableRange t
    · rw [hunread hword hread, exists_behindDollar?_iff]
      simp [hread]
    · obtain ⟨path, range, -, h⟩ := hfile hword hread
      simp [h, hread]
  · rintro ⟨c, hc, hspace⟩
    refine ofText?_of_file?_eq_none (file?_eq_none fun hword => ?_)
    rw [hword.2 c hc] at hspace
    cases hspace

/-- A word with a bound that is too large is run as a command. -/
theorem ofText?_runs_lone_word :
    let text := "$x#L0-L18446744073709551616".toList
    IsWord (Text.trim text) ∧
      ofText? text = some (.command "x#L0-L18446744073709551616".toList) := by
  decide

/-- A word with a dollar sign and a range, and a command with white space around and inside. -/
theorem ofText?_forms_dollar :
    (∃ path range, NamesFile path range "$x#L1-2".toList ∧
      ofText? " $x#L1-2".toList = some (.file path range)) ∧
      ofText? " $\t ls  -a\n".toList = some (.command "ls  -a".toList) := by
  have htrim : Text.trim " $x#L1-2".toList = "$x#L1-2".toList := by decide
  have hcut : cutRange? "$x#L1-2".toList = some ("$x".toList, "1".toList, "2".toList) := by
    decide
  have hread : ¬ EndsInUnreadableRange "$x#L1-2".toList := by
    rintro ⟨path, a, b, hranged, hno⟩
    rw [cutRange?_eq_some_iff.mpr hranged] at hcut
    cases hcut
    exact hno ⟨⟨1, boundOfDigits?_eq_some_iff.mp (by decide)⟩,
      ⟨2, boundOfDigits?_eq_some_iff.mp (by decide)⟩⟩
  have hspace : ∃ c ∈ Text.trim " $\t ls  -a\n".toList, isSpace c = true :=
    ⟨' ', by decide, by decide⟩
  obtain ⟨-, hfile, -, -⟩ := ofText?_forms " $x#L1-2".toList
  obtain ⟨-, -, -, hcommand⟩ := ofText?_forms " $\t ls  -a\n".toList
  simp only [htrim] at hfile
  refine ⟨hfile (by decide) hread, (hcommand hspace).trans ?_⟩
  decide

end Directive

end FenceSync
