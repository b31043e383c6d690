import FenceSync.Directive
import FenceSync.Proofs.Fences

namespace FenceSync

/-!
# White space around a text

* `Text.exists_eq_trim` takes a text apart into white space, its trimmed form, and white space;
  `Text.trim_eq_of_core` says that there is only one way to do so.
* `Directive.ofText?_trim` says that the white space around a directive does not matter.
-/

namespace Text

/-- Nothing but white space. -/
def IsSpaces (t : Text) : Prop := ∀ c ∈ t, isSpace c = true

/-- A text that neither starts nor ends with white space. -/
def IsCore (t : Text) : Prop :=
  (∀ c ∈ t.head?, isSpace c = false) ∧ ∀ c ∈ t.getLast?, isSpace c = false

theorem isBlank_iff {t : Text} : isBlank t = true ↔ IsSpaces t := by
  rw [isBlank, List.all_eq_true, IsSpaces]

/-! ### One side -/

theorem trimStart_append {w t : Text} (hw : IsSpaces w) : trimStart (w ++ t) = trimStart t := by
  rw [trimStart, List.dropWhile_append_of_pos hw, trimStart]

theorem trimStart_eq_self {t : Text} (h : ∀ c ∈ t.head?, isSpace c = false) :
    trimStart t = t := by
  cases t with
  | nil => rfl
  | cons c t => rw [trimStart, List.dropWhile_cons_of_neg (by simp [h c rfl])]

theorem exists_eq_trimStart (t : Text) : ∃ w, IsSpaces w ∧ t = w ++ trimStart t :=
  ⟨t.takeWhile isSpace, fun _ hc => List.mem_takeWhile_imp hc,
    List.takeWhile_append_dropWhile.symm⟩

theorem head?_trimStart (t : Text) : ∀ c ∈ (trimStart t).head?, isSpace c = false := by
  intro c hc
  have h := List.head?_dropWhile_not isSpace t
  rw [trimStart] at hc
  rw [Option.mem_def.mp hc] at h
  simpa using h

theorem trimEnd_append {w t : Text} (hw : IsSpaces w) : trimEnd (t ++ w) = trimEnd t := by
  have hw' : ∀ c ∈ w.reverse, isSpace c = true := fun c hc => hw c (List.mem_reverse.mp hc)
  rw [trimEnd, List.reverse_append, List.dropWhile_append_of_pos hw', trimEnd]

theorem trimEnd_eq_self {t : Text} (h : ∀ c ∈ t.getLast?, isSpace c = false) :
    trimEnd t = t := by
  have h' := trimStart_eq_self (t := t.reverse) (by rwa [List.head?_reverse])
  rw [trimStart] at h'
  rw [trimEnd, h', List.reverse_reverse]

theorem exists_eq_trimEnd (t : Text) : ∃ w, IsSpaces w ∧ t = trimEnd t ++ w := by
  obtain ⟨w, hw, ht⟩ := exists_eq_trimStart t.reverse
  refine ⟨w.reverse, fun c hc => hw c (List.mem_reverse.mp hc), ?_⟩
  rw [trimEnd, ← List.reverse_append]
  exact List.reverse_eq_iff.mp ht

theorem getLast?_trimEnd (t : Text) : ∀ c ∈ (trimEnd t).getLast?, isSpace c = false := by
  rw [trimEnd, List.getLast?_reverse]
  exact head?_trimStart t.reverse

/-! ### Both sides -/

/-- The end of a text has no part in how its trimmed form starts. -/
theorem head?_trim (t : Text) : (trim t).head? = (trimStart t).head? := by
  obtain ⟨w, hw, hwt⟩ := exists_eq_trimEnd (trimStart t)
  rw [← trim] at hwt
  cases htrim : trim t with
  | nil =>
    rw [htrim, List.nil_append] at hwt
    cases w with
    | nil => rw [hwt]
    | cons d w =>
      have hspace := head?_trimStart t d (by rw [hwt]; rfl)
      rw [hw d (by simp)] at hspace
      cases hspace
  | cons d u =>
    rw [hwt, htrim]
    rfl

/-- **A text is its trimmed form with white space around it.** -/
theorem exists_eq_trim (t : Text) :
    ∃ v w, IsSpaces v ∧ IsSpaces w ∧ t = v ++ trim t ++ w ∧ IsCore (trim t) := by
  obtain ⟨v, hv, hvt⟩ := exists_eq_trimStart t
  obtain ⟨w, hw, hwt⟩ := exists_eq_trimEnd (trimStart t)
  refine ⟨v, w, hv, hw, ?_, ?_, getLast?_trimEnd _⟩
  · rw [List.append_assoc, trim, ← hwt]
    exact hvt
  · rw [head?_trim]
    exact head?_trimStart t

/-- There is only one way to take a text apart like that. -/
theorem trim_eq_of_core {v m w : Text} (hv : IsSpaces v) (hw : IsSpaces w) (hm : IsCore m) :
    trim (v ++ m ++ w) = m := by
  rw [trim, List.append_assoc, trimStart_append hv]
  cases m with
  | nil =>
    have h : trimStart w = [] := List.dropWhile_eq_nil_iff.mpr hw
    rw [List.nil_append, h]
    rfl
  | cons c m =>
    rw [trimStart_eq_self (by simpa using hm.1), trimEnd_append hw, trimEnd_eq_self hm.2]

theorem isCore_trim (t : Text) : IsCore (trim t) := by
  obtain ⟨_, _, _, _, _, h⟩ := exists_eq_trim t
  exact h

theorem trim_eq_self {t : Text} (h : IsCore t) : trim t = t := by
  simpa using trim_eq_of_core (v := []) (w := []) (by simp [IsSpaces]) (by simp [IsSpaces]) h

@[simp] theorem trim_trim (t : Text) : trim (trim t) = trim t := trim_eq_self (isCore_trim t)

theorem IsSpaces.append {v w : Text} (hv : IsSpaces v) (hw : IsSpaces w) : IsSpaces (v ++ w) := by
  intro c hc
  rcases List.mem_append.mp hc with hc | hc
  · exact hv c hc
  · exact hw c hc

/-- White space on the left does not matter. -/
theorem trim_append_left {v : Text} (hv : IsSpaces v) (t : Text) : trim (v ++ t) = trim t := by
  rw [trim, trimStart_append hv, trim]

/-- White space on the right does not matter. -/
theorem trim_append_right {w : Text} (hw : IsSpaces w) (t : Text) : trim (t ++ w) = trim t := by
  obtain ⟨v, w', hv, hw', ht, hcore⟩ := exists_eq_trim t
  have h : trim (v ++ trim t ++ (w' ++ w)) = trim t := trim_eq_of_core hv (hw'.append hw) hcore
  rwa [← List.append_assoc, ← ht] at h

/-- The trimmed form holds no other characters. -/
theorem mem_of_mem_trim {t : Text} {c : Char} (h : c ∈ trim t) : c ∈ t := by
  obtain ⟨v, w, -, -, ht, -⟩ := exists_eq_trim t
  rw [ht]
  simp [h]

theorem isBlank_iff_trim {t : Text} : isBlank t = true ↔ trim t = [] := by
  rw [isBlank_iff]
  constructor
  · intro h
    have h' := trim_eq_of_core (m := []) h (w := []) (by simp [IsSpaces]) (by simp [IsCore])
    simpa using h'
  · intro h
    obtain ⟨v, w, hv, hw, ht, -⟩ := exists_eq_trim t
    rw [ht, h, List.append_nil]
    exact hv.append hw

end Text

theorem IsIndent.isSpaces {t : Text} (h : IsIndent t) : Text.IsSpaces t :=
  fun c hc => isSpace_of_isTabOrSpace (h c hc)

/-! ### Directives -/

namespace Directive

theorem file?_trim (t : Text) : file? (Text.trim t) = file? t := by
  rw [file?, Text.trim_trim, file?]

/-- A lone dollar sign names a file. -/
theorem file?_of_trim_eq_dollar {t : Text} (h : Text.trim t = ['$']) :
    file? t = some (.file ['$'] none) := by
  rw [file?, h]
  decide

theorem command?_of_dollar {t rest : Text} (h : Text.trimStart t = '$' :: rest)
    (hb : Text.isBlank rest = false) : command? t = some (.command (Text.trim rest)) := by
  rw [command?, h]
  simp only
  rw [if_neg (by simp [hb])]

theorem command?_of_no_dollar {t : Text} (h : ∀ c ∈ (Text.trimStart t).head?, c ≠ '$') :
    command? t = none := by
  rw [command?]
  split
  · next rest hrest => exact absurd rfl (h '$' (by rw [hrest]; rfl))
  · rfl

/-- A word behind a dollar sign makes a command, with or without the white space around it. -/
theorem command?_trim_of_dollar {t u : Text} (h : Text.trim t = '$' :: u) (hne : u ≠ []) :
    command? (Text.trim t) = command? t := by
  obtain ⟨v, w, hv, hw, ht, hcore⟩ := Text.exists_eq_trim t
  rw [h] at ht hcore
  have hlast : isSpace (u.getLast hne) = false := by
    refine hcore.2 _ ?_
    rw [List.getLast?_cons_of_ne_nil hne, List.getLast?_eq_some_getLast hne]
    rfl
  -- The last character of the trimmed text is no white space, whatever follows it.
  have hblank : ∀ x, Text.isBlank (u ++ x) = false := by
    intro x
    rw [Text.isBlank, List.all_eq_false]
    exact ⟨u.getLast hne, by simp, by simp [hlast]⟩
  have hstart : Text.trimStart t = '$' :: (u ++ w) := by
    rw [ht, List.append_assoc, Text.trimStart_append hv]
    exact Text.trimStart_eq_self (by simpa using hcore.1)
  have hstart' : Text.trimStart (Text.trim t) = '$' :: u := by
    rw [h]
    exact Text.trimStart_eq_self hcore.1
  rw [command?_of_dollar hstart (hblank w), command?_of_dollar hstart' (by simpa using hblank []),
    Text.trim_append_right hw]

/-- **The white space around a directive does not matter.**  Behind a dollar sign alone it would,
    for a command; but such a text names a file. -/
theorem ofText?_trim (t : Text) : ofText? (Text.trim t) = ofText? t := by
  rw [ofText?, ofText?, file?_trim]
  cases hfile : file? t with
  | some d => rfl
  | none =>
    rw [Option.none_or, Option.none_or]
    by_cases hdollar : ∃ u, Text.trim t = '$' :: u
    · obtain ⟨u, hu⟩ := hdollar
      refine command?_trim_of_dollar hu ?_
      rintro rfl
      rw [file?_of_trim_eq_dollar hu] at hfile
      cases hfile
    · have hhead : ∀ s, Text.trim s = Text.trim t →
          ∀ c ∈ (Text.trimStart s).head?, c ≠ '$' := by
        rintro s hs c hc rfl
        rw [← Text.head?_trim, hs] at hc
        exact hdollar (List.head?_eq_some_iff.mp hc)
      rw [command?_of_no_dollar (hhead _ (Text.trim_trim t)), command?_of_no_dollar (hhead t rfl)]

theorem ofText?_congr {s t : Text} (h : Text.trim s = Text.trim t) : ofText? s = ofText? t := by
  rw [← ofText?_trim s, h, ofText?_trim]

end Directive

end FenceSync
