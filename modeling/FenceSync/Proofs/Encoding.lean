import FenceSync.Proofs.Tally

namespace FenceSync

/-!
# Reading UTF-8 back

* `Utf8.unitsFrom_char` says that an encoded character is read back; it goes by the number of bytes.
* `Bytes.lossyText_utf8` says that an encoded text is read back.
* `Bytes.tally_utf8` says that bytes have the newlines of the text that they encode, since the bytes
  of CR and LF are part of no other character.
-/

namespace Utf8

/-! ### Bytes in the middle -/

theorem toNat_ofNat {b : Nat} (h : b < 256) : (UInt8.ofNat b).toNat = b := by
  rw [UInt8.toNat_ofNat']
  exact Nat.mod_eq_of_lt h

theorem Partial.accepts_ofNat {p : Partial} {b : Nat} (h : b < 256) (hlow : p.low ≤ b)
    (hhigh : b ≤ p.high) : p.accepts (UInt8.ofNat b) = true := by
  rw [Partial.accepts, toNat_ofNat h]
  simp [hlow, hhigh]

theorem Partial.extended_ofNat (p : Partial) {b : Nat} (h : b < 256) :
    p.extended (UInt8.ofNat b) = p.value * 64 + (b - 0x80) := by
  show p.value * 64 + ((UInt8.ofNat b).toNat - 0x80) = p.value * 64 + (b - 0x80)
  rw [toNat_ofNat h]

/-- The last byte completes a character. -/
theorem unitsFrom_last {p : Partial} {b : Nat} (hp : p.missing = 1) (h : b < 256)
    (hlow : p.low ≤ b) (hhigh : b ≤ p.high) (bs : Bytes) :
    unitsFrom (some p) (UInt8.ofNat b :: bs) =
      some (Char.ofNat (p.value * 64 + (b - 0x80))) :: unitsFrom none bs := by
  rw [unitsFrom, if_pos (Partial.accepts_ofNat h hlow hhigh), if_pos hp,
    Partial.extended_ofNat p h]

/-- Any other byte leaves one less missing. -/
theorem unitsFrom_more {p : Partial} {b : Nat} (hp : p.missing ≠ 1) (h : b < 256)
    (hlow : p.low ≤ b) (hhigh : b ≤ p.high) (bs : Bytes) :
    unitsFrom (some p) (UInt8.ofNat b :: bs) =
      unitsFrom (some ⟨p.missing - 1, 0x80, 0xBF, p.value * 64 + (b - 0x80)⟩) bs := by
  rw [unitsFrom, if_pos (Partial.accepts_ofNat h hlow hhigh), if_neg hp,
    Partial.extended_ofNat p h]

/-! ### First bytes -/

theorem start_one {b : Nat} (h : b < 0x80) : start (UInt8.ofNat b) = .whole (Char.ofNat b) := by
  rw [start, toNat_ofNat (by omega)]
  rw [if_pos h]

theorem start_two {b : Nat} (hlow : 0xC2 ≤ b) (hhigh : b < 0xE0) :
    start (UInt8.ofNat b) = .opens ⟨1, 0x80, 0xBF, b - 0xC0⟩ := by
  rw [start, toNat_ofNat (by omega)]
  rw [if_neg (by omega), if_neg (by omega), if_pos hhigh]

theorem start_three {b : Nat} (hlow : 0xE0 ≤ b) (hhigh : b < 0xF0) :
    start (UInt8.ofNat b) =
      .opens ⟨2, if b = 0xE0 then 0xA0 else 0x80, if b = 0xED then 0x9F else 0xBF, b - 0xE0⟩ := by
  rw [start, toNat_ofNat (by omega)]
  rw [if_neg (by omega), if_neg (by omega), if_neg (by omega)]
  by_cases h₁ : b = 0xE0
  · subst h₁
    rfl
  · rw [if_neg h₁, if_neg h₁]
    by_cases h₂ : b = 0xED
    · subst h₂
      rfl
    · rw [if_neg h₂, if_neg h₂, if_pos hhigh]

theorem start_four {b : Nat} (hlow : 0xF0 ≤ b) (hhigh : b ≤ 0xF4) :
    start (UInt8.ofNat b) =
      .opens ⟨3, if b = 0xF0 then 0x90 else 0x80, if b = 0xF4 then 0x8F else 0xBF, b - 0xF0⟩ := by
  rw [start, toNat_ofNat (by omega)]
  rw [if_neg (by omega), if_neg (by omega), if_neg (by omega), if_neg (by omega),
    if_neg (by omega), if_neg (by omega)]
  by_cases h₁ : b = 0xF0
  · subst h₁
    rfl
  · rw [if_neg h₁, if_neg h₁]
    by_cases h₂ : b = 0xF4
    · subst h₂
      rfl
    · rw [if_neg h₂, if_neg h₂, if_pos (by omega)]

/-! ### Characters -/

/-- **An encoded character is read back.** -/
theorem unitsFrom_char (c : Char) (bs : Bytes) :
    unitsFrom none (String.utf8EncodeChar c ++ bs) = some c :: unitsFrom none bs := by
  have hvalid : c.val.toNat < 0xD800 ∨ 0xDFFF < c.val.toNat ∧ c.val.toNat < 0x110000 := c.valid
  have hchar : Char.ofNat c.val.toNat = c := Char.ofNat_toNat c
  unfold String.utf8EncodeChar
  generalize c.val.toNat = v at hvalid hchar
  simp only
  -- One case for each length of an encoded character.
  by_cases h₁ : v ≤ 0x7F
  · rw [if_pos h₁, List.cons_append, List.nil_append, unitsFrom, start_one (by omega), hchar]
  rw [if_neg h₁]
  by_cases h₂ : v ≤ 0x7FF
  · rw [if_pos h₂, List.cons_append, List.cons_append, List.nil_append, unitsFrom,
      start_two (by omega) (by omega)]
    simp only
    rw [unitsFrom_last rfl (by omega) (by simp only; omega) (by simp only; omega)]
    simp only
    rw [show (v / 64 % 0x20 + 0xC0 - 0xC0) * 64 + (v % 0x40 + 0x80 - 0x80) = v by omega, hchar]
  rw [if_neg h₂]
  by_cases h₃ : v ≤ 0xFFFF
  · rw [if_pos h₃, List.cons_append, List.cons_append, List.cons_append, List.nil_append,
      unitsFrom, start_three (by omega) (by omega)]
    simp only
    rw [unitsFrom_more (by simp) (by omega) (by simp only; split <;> omega)
      (by simp only; split <;> omega), unitsFrom_last rfl (by omega) (by simp only; omega)
      (by simp only; omega)]
    simp only
    rw [show ((v / 4096 % 0x10 + 0xE0 - 0xE0) * 64 + (v / 64 % 0x40 + 0x80 - 0x80)) * 64 +
      (v % 0x40 + 0x80 - 0x80) = v by omega, hchar]
  · rw [if_neg h₃, List.cons_append, List.cons_append, List.cons_append, List.cons_append,
      List.nil_append, unitsFrom, start_four (by omega) (by omega)]
    simp only
    rw [unitsFrom_more (by simp) (by omega) (by simp only; split <;> omega)
      (by simp only; split <;> omega), unitsFrom_more (by simp) (by omega)
      (by simp only; omega) (by simp only; omega), unitsFrom_last rfl (by omega)
      (by simp only; omega) (by simp only; omega)]
    simp only
    rw [show (((v / 262144 % 8 + 0xF0 - 0xF0) * 64 + (v / 4096 % 0x40 + 0x80 - 0x80)) * 64 +
      (v / 64 % 0x40 + 0x80 - 0x80)) * 64 + (v % 0x40 + 0x80 - 0x80) = v by omega, hchar]

/-- An encoded text is read back character by character. -/
theorem units_utf8 (t : Text) : units (Text.utf8 t) = t.map some := by
  rw [units]
  induction t with
  | nil => rfl
  | cons c t ih => rw [Text.utf8, List.flatMap_cons, unitsFrom_char, ← Text.utf8, ih, List.map_cons]

/-- The bytes of a character below 0x80 are part of no other character. -/
theorem encode_of_lt {c : Char} (h : c.val.toNat < 0x80) :
    String.utf8EncodeChar c = [UInt8.ofNat c.val.toNat] := by
  rw [String.utf8EncodeChar, if_pos (by omega)]

theorem le_of_mem_encode {c : Char} (h : 0x80 ≤ c.val.toNat) {b : UInt8}
    (hb : b ∈ String.utf8EncodeChar c) : 0x80 ≤ b.toNat := by
  have hvalid : c.val.toNat < 0xD800 ∨ 0xDFFF < c.val.toNat ∧ c.val.toNat < 0x110000 := c.valid
  unfold String.utf8EncodeChar at hb
  generalize c.val.toNat = v at h hvalid hb
  simp only at hb
  rw [if_neg (by omega)] at hb
  split at hb
  · simp only [List.mem_cons, List.not_mem_nil, or_false] at hb
    rcases hb with rfl | rfl <;> rw [toNat_ofNat (by omega)] <;> omega
  · split at hb
    · simp only [List.mem_cons, List.not_mem_nil, or_false] at hb
      rcases hb with rfl | rfl | rfl <;> rw [toNat_ofNat (by omega)] <;> omega
    · simp only [List.mem_cons, List.not_mem_nil, or_false] at hb
      rcases hb with rfl | rfl | rfl | rfl <;> rw [toNat_ofNat (by omega)] <;> omega

theorem encode_ne_nil (c : Char) : String.utf8EncodeChar c ≠ [] := by
  unfold String.utf8EncodeChar
  simp only
  split
  · simp
  · split
    · simp
    · split <;> simp

/-- Neither the byte of CR nor that of LF is part of another character. -/
theorem newline_notMem_encode {c : Char} (hcr : c ≠ '\r') (hlf : c ≠ '\n') :
    0x0D ∉ String.utf8EncodeChar c ∧ 0x0A ∉ String.utf8EncodeChar c := by
  by_cases h : c.val.toNat < 0x80
  · rw [encode_of_lt h, List.mem_singleton, List.mem_singleton]
    have hof : ∀ d : Char, d ≠ c → d.val.toNat < 0x80 →
        UInt8.ofNat d.val.toNat ≠ UInt8.ofNat c.val.toNat := by
      intro d hd hlt heq
      have hnat := congrArg UInt8.toNat heq
      rw [toNat_ofNat (by omega), toNat_ofNat (by omega)] at hnat
      exact hd (Char.ext (UInt32.toNat_inj.mp hnat))
    exact ⟨hof '\r' (Ne.symm hcr) (by decide), hof '\n' (Ne.symm hlf) (by decide)⟩
  · constructor
    · intro hb
      exact absurd (le_of_mem_encode (by omega) hb) (by decide)
    · intro hb
      exact absurd (le_of_mem_encode (by omega) hb) (by decide)

/-- A character of several bytes holds no byte of a newline. -/
theorem newline_notMem_encode_of_one_lt {c : Char} (h : 1 < (String.utf8EncodeChar c).length) :
    0x0D ∉ String.utf8EncodeChar c ∧ 0x0A ∉ String.utf8EncodeChar c :=
  newline_notMem_encode (by rintro rfl; exact absurd h (by decide))
    (by rintro rfl; exact absurd h (by decide))

end Utf8

namespace Bytes

/-- **An encoded text is read back.** -/
theorem lossyText_utf8 (t : Text) : lossyText (Text.utf8 t) = t := by
  rw [lossyText, Utf8.units_utf8, List.map_map]
  exact List.map_id' t

/-- An encoded character is counted as the character is, since the bytes of CR and LF are part of no
    other one. -/
theorem tallyFrom_encode {bs : Bytes} {t : Text}
    (h : ∀ after, tallyFrom 0x0D 0x0A after bs = tallyFrom '\r' '\n' after t) (c : Char)
    (after : Bool) :
    tallyFrom 0x0D 0x0A after (String.utf8EncodeChar c ++ bs) =
      tallyFrom '\r' '\n' after (c :: t) := by
  by_cases hlf : c = '\n'
  · subst hlf
    show tallyFrom 0x0D 0x0A after (0x0A :: bs) = tallyFrom '\r' '\n' after ('\n' :: t)
    cases after with
    | true => rw [tallyFrom_paired, tallyFrom_paired, h]; rfl
    | false => rw [tallyFrom_bare, tallyFrom_bare, h]; rfl
  · by_cases hcr : c = '\r'
    · subst hcr
      show tallyFrom 0x0D 0x0A after (0x0D :: bs) = tallyFrom '\r' '\n' after ('\r' :: t)
      rw [tallyFrom_of_ne (by decide), tallyFrom_of_ne (by decide), h]
      rfl
    · obtain ⟨hcr', hlf'⟩ := Utf8.newline_notMem_encode hcr hlf
      rw [tallyFrom_append_of_notMem hcr' hlf' (Utf8.encode_ne_nil c), tallyFrom_of_ne hlf,
        decide_eq_false hcr, h]

/-- **Bytes have the newlines of the text that they encode.** -/
theorem tally_utf8 (t : Text) : tally (Text.utf8 t) = Text.tally t := by
  rw [tally, Text.tally]
  generalize false = after
  induction t generalizing after with
  | nil => rfl
  | cons c t ih =>
    rw [Text.utf8, List.flatMap_cons, ← Text.utf8]
    exact tallyFrom_encode ih c after

theorem newline_utf8 (t : Text) : newline (Text.utf8 t) = Text.newline t := by
  rw [newline, tally_utf8, Text.newline]

theorem text?_eq_some_iff {bs : Bytes} {t : Text} :
    text? bs = some t ↔ Utf8.units bs = t.map some := by
  rw [text?]
  generalize Utf8.units bs = us
  induction us generalizing t with
  | nil => cases t <;> simp
  | cons u us ih =>
    rw [List.mapM_cons]
    cases u with
    | none => cases t <;> simp
    | some c =>
      cases h : us.mapM id <;> cases t <;> simp [← ih, h]

/-- **Bytes that are read as a text** are read without faults. -/
theorem lossyText_of_text? {bs : Bytes} {t : Text} (h : text? bs = some t) : lossyText bs = t := by
  rw [lossyText, text?_eq_some_iff.mp h, List.map_map]
  exact List.map_id' t

theorem text?_utf8 (t : Text) : text? (Text.utf8 t) = some t :=
  text?_eq_some_iff.mpr (Utf8.units_utf8 t)

end Bytes

/-- A text without a CR is written without one. -/
theorem Text.cr_notMem_utf8 {t : Text} (h : '\r' ∉ t) : 0x0D ∉ Text.utf8 t := by
  intro hcr
  obtain ⟨c, hc, hb⟩ := List.mem_flatMap.mp hcr
  by_cases hlf : c = '\n'
  · subst hlf
    exact absurd hb (by decide)
  · exact (Utf8.newline_notMem_encode (fun hc' => h (hc' ▸ hc)) hlf).1 hb

end FenceSync
