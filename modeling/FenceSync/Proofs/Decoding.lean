import FenceSync.Proofs.Encoding
import FenceSync.Resolve
import Mathlib.Algebra.Group.Nat.Defs

namespace FenceSync

/-!
# Reading any bytes

Bytes need not encode a text.  What stands for no character is shown as U+FFFD, once for as many bytes
as could still have become a character, and takes no newline with it.

* `Utf8.Reads` says which text bytes are to be read as, in terms of the encoding alone.
* `Utf8.Partial.Follows` is the invariant of the decoder inside a character: the characters that it
  can still find are those that are encoded with the bytes that it has read.
* `Bytes.reads_iff` says that the decoder finds the text.
* `Utf8.Reads.tallyFrom` says that bytes have the newlines of the text that they are read as, and
  `length_linesOfOutput` counts the lines.
* `Bytes.newlines_lossyText` is the full statement.
-/

namespace Utf8

/-! ### What is to be read -/

/-- The bytes of a character begin with `u` and go on. -/
def Begins (u : Bytes) : Prop := ∃ c v, v ≠ [] ∧ String.utf8EncodeChar c = u ++ v

/-- Bytes that stand for no character, with `rest` behind them. -/
inductive IsFault : Bytes → Bytes → Prop where
  /-- A byte with which no character begins. -/
  | lone {b : UInt8} {rest : Bytes} (h : ∀ c, ¬ [b] <+: String.utf8EncodeChar c) :
      IsFault [b] rest
  /-- The beginning of a character, with which no character goes on. -/
  | cut {u rest : Bytes} (hne : u ≠ []) (hbegins : Begins u)
      (hends : ∀ b ∈ rest.head?, ∀ c, ¬ u ++ [b] <+: String.utf8EncodeChar c) : IsFault u rest

/-- The text that bytes are read as, with U+FFFD for every fault. -/
inductive Reads : Bytes → Text → Prop where
  | nil : Reads [] []
  | char (c : Char) {bs : Bytes} {t : Text} (h : Reads bs t) :
      Reads (String.utf8EncodeChar c ++ bs) (c :: t)
  | fault {u bs : Bytes} {t : Text} (hu : IsFault u bs) (h : Reads bs t) :
      Reads (u ++ bs) (replacement :: t)

theorem unitsFrom_encode (c : Char) : unitsFrom none (String.utf8EncodeChar c) = [some c] := by
  rw [← List.append_nil (String.utf8EncodeChar c), unitsFrom_char]
  rfl

theorem Begins.of_append {u w : Bytes} (h : Begins (u ++ w)) : Begins u := by
  obtain ⟨c, v, hne, hc⟩ := h
  exact ⟨c, w ++ v, by simp [hne], hc.trans (List.append_assoc _ _ _)⟩

theorem Begins.exists_prefix {u : Bytes} (h : Begins u) : ∃ c, u <+: String.utf8EncodeChar c := by
  obtain ⟨c, v, -, hc⟩ := h
  exact ⟨c, v, hc.symm⟩

/-- No character is encoded as the beginning of another one. -/
theorem Begins.ne_encode {u : Bytes} (h : Begins u) (c : Char) : String.utf8EncodeChar c ≠ u := by
  rintro rfl
  obtain ⟨d, v, hne, hd⟩ := h
  have hread := unitsFrom_encode d
  rw [hd, unitsFrom_char] at hread
  obtain rfl : c = d := Option.some.inj (List.head_eq_of_cons_eq hread)
  exact hne (List.self_eq_append_right.mp hd)

/-- Bytes that stand for no character hold no newline. -/
theorem IsFault.newline_notMem {u rest : Bytes} (h : IsFault u rest) :
    u ≠ [] ∧ 0x0D ∉ u ∧ 0x0A ∉ u := by
  cases h with
  | @lone b _ h =>
    refine ⟨by simp, ?_, ?_⟩ <;> rw [List.mem_singleton] <;> rintro rfl
    · exact h '\r' (List.prefix_refl _)
    · exact h '\n' (List.prefix_refl _)
  | cut hne hbegins _ =>
    obtain ⟨c, v, hv, hc⟩ := hbegins
    -- The bytes of a newline are whole characters.
    have hlong : 1 < (String.utf8EncodeChar c).length := by
      have hu := List.length_pos_iff.mpr hne
      have hv := List.length_pos_iff.mpr hv
      rw [hc, List.length_append]
      omega
    obtain ⟨hcr, hlf⟩ := newline_notMem_encode_of_one_lt hlong
    rw [hc, List.mem_append, not_or] at hcr hlf
    exact ⟨hne, hcr.1, hlf.1⟩

/-! ### Values and bytes -/

/-- The last `n` bytes of a character with the value `v`. -/
def tail : Nat → Nat → Bytes
  | 0, _ => []
  | n + 1, v => UInt8.ofNat (v / 64 ^ n % 64 + 0x80) :: tail n v

theorem val_ofNat {v : Nat} (h : v.isValidChar) : (Char.ofNat v).val.toNat = v := by
  rw [Char.ofNat, dif_pos h]
  rfl

theorem encode_two {v : Nat} (hlow : 0x80 ≤ v) (hhigh : v ≤ 0x7FF) :
    String.utf8EncodeChar (Char.ofNat v) = UInt8.ofNat (v / 64 + 0xC0) :: tail 1 v := by
  rw [String.utf8EncodeChar, val_ofNat (.inl (by omega))]
  rw [if_neg (by omega), if_pos hhigh, Nat.mod_eq_of_lt (a := v / 64) (by omega)]
  simp [tail]

theorem encode_three {v : Nat} (hlow : 0x800 ≤ v) (hhigh : v ≤ 0xFFFF)
    (hvalid : v < 0xD800 ∨ 0xDFFF < v) :
    String.utf8EncodeChar (Char.ofNat v) = UInt8.ofNat (v / 4096 + 0xE0) :: tail 2 v := by
  rw [String.utf8EncodeChar, val_ofNat (hvalid.imp id fun h => ⟨h, by omega⟩)]
  rw [if_neg (by omega), if_neg (by omega), if_pos hhigh,
    Nat.mod_eq_of_lt (a := v / 4096) (by omega)]
  simp [tail]

theorem encode_four {v : Nat} (hlow : 0x10000 ≤ v) (hhigh : v < 0x110000) :
    String.utf8EncodeChar (Char.ofNat v) = UInt8.ofNat (v / 262144 + 0xF0) :: tail 3 v := by
  rw [String.utf8EncodeChar, val_ofNat (.inr ⟨by omega, hhigh⟩)]
  rw [if_neg (by omega), if_neg (by omega), if_neg (by omega),
    Nat.mod_eq_of_lt (a := v / 262144) (by omega)]
  simp [tail]

/-! ### Inside a character -/

/-- The bytes `u` have been read when `p` is missing: reading goes on from there, and every value that
    agrees with what was read and with the bounds is encoded with these bytes first. -/
structure Partial.Follows (p : Partial) (u : Bytes) : Prop where
  ne_nil : u ≠ []
  reads : ∀ bs, unitsFrom none (u ++ bs) = unitsFrom (some p) bs
  missing_pos : 0 < p.missing
  low_le : 0x80 ≤ p.low
  low_le_high : p.low ≤ p.high
  high_le : p.high ≤ 0xBF
  spells : ∀ v, v / 64 ^ p.missing = p.value → p.low ≤ v / 64 ^ (p.missing - 1) % 64 + 0x80 →
    v / 64 ^ (p.missing - 1) % 64 + 0x80 ≤ p.high →
    String.utf8EncodeChar (Char.ofNat v) = u ++ tail p.missing v

theorem Partial.follows_of_start {n : Nat} {p : Partial} (hn : start (UInt8.ofNat n) = .opens p)
    (hmissing : 0 < p.missing) (hlow : 0x80 ≤ p.low) (hle : p.low ≤ p.high) (hhigh : p.high ≤ 0xBF)
    (hspells : ∀ v, v / 64 ^ p.missing = p.value →
      p.low ≤ v / 64 ^ (p.missing - 1) % 64 + 0x80 → v / 64 ^ (p.missing - 1) % 64 + 0x80 ≤ p.high →
      String.utf8EncodeChar (Char.ofNat v) = UInt8.ofNat n :: tail p.missing v) :
    p.Follows [UInt8.ofNat n] where
  ne_nil := by simp
  reads bs := by rw [List.singleton_append, unitsFrom, hn]
  missing_pos := hmissing
  low_le := hlow
  low_le_high := hle
  high_le := hhigh
  spells := hspells

theorem follows_two {n : Nat} (hlow : 0xC2 ≤ n) (hhigh : n < 0xE0) :
    Partial.Follows ⟨1, 0x80, 0xBF, n - 0xC0⟩ [UInt8.ofNat n] := by
  refine Partial.follows_of_start (start_two hlow hhigh) (by simp) (by simp) (by simp) (by simp) ?_
  intro v hv _ _
  simp only [Nat.reducePow] at hv
  rw [encode_two (by omega) (by omega), hv, Nat.sub_add_cancel (by omega)]

theorem follows_three {n : Nat} (hlow : 0xE0 ≤ n) (hhigh : n < 0xF0) :
    Partial.Follows
      ⟨2, if n = 0xE0 then 0xA0 else 0x80, if n = 0xED then 0x9F else 0xBF, n - 0xE0⟩
      [UInt8.ofNat n] := by
  refine Partial.follows_of_start (start_three hlow hhigh) (by simp) ?_ ?_ ?_ ?_
  · simp only; split <;> omega
  · simp only; split <;> split <;> omega
  · simp only; split <;> omega
  · -- The bounds leave out what two bytes can encode, and the surrogates.
    intro v hv hfrom hto
    simp only [Nat.reducePow, Nat.reduceSub] at hv hfrom hto
    rw [encode_three (by split at hfrom <;> omega) (by omega) (by split at hto <;> omega), hv,
      Nat.sub_add_cancel hlow]

theorem follows_four {n : Nat} (hlow : 0xF0 ≤ n) (hhigh : n ≤ 0xF4) :
    Partial.Follows
      ⟨3, if n = 0xF0 then 0x90 else 0x80, if n = 0xF4 then 0x8F else 0xBF, n - 0xF0⟩
      [UInt8.ofNat n] := by
  refine Partial.follows_of_start (start_four hlow hhigh) (by simp) ?_ ?_ ?_ ?_
  · simp only; split <;> omega
  · simp only; split <;> split <;> omega
  · simp only; split <;> omega
  · -- The bounds leave out what three bytes can encode, and what lies beyond the last character.
    intro v hv hfrom hto
    simp only [Nat.reducePow, Nat.reduceSub] at hv hfrom hto
    rw [encode_four (by split at hfrom <;> omega) (by split at hto <;> omega), hv,
      Nat.sub_add_cancel hlow]

/-- A byte is a character of its own, or starts one, or does neither. -/
theorem cases_start (b : UInt8) :
    (∃ c, start b = .whole c ∧ String.utf8EncodeChar c = [b]) ∨
      (∃ p, start b = .opens p ∧ p.Follows [b]) ∨ start b = .fault := by
  have hb : UInt8.ofNat b.toNat = b := UInt8.ofNat_toNat
  have hlt : b.toNat < 256 := b.toNat_lt
  generalize b.toNat = n at hb hlt
  subst hb
  by_cases h₁ : n < 0x80
  · left
    refine ⟨_, start_one h₁, ?_⟩
    rw [encode_of_lt, val_ofNat (.inl (by omega))]
    rw [val_ofNat (.inl (by omega))]
    exact h₁
  right
  by_cases h₂ : n < 0xC2
  · right
    rw [start, toNat_ofNat hlt]
    simp only [if_neg h₁, if_pos h₂]
  by_cases h₃ : n < 0xE0
  · exact .inl ⟨_, start_two (by omega) h₃, follows_two (by omega) h₃⟩
  by_cases h₄ : n < 0xF0
  · exact .inl ⟨_, start_three (by omega) h₄, follows_three (by omega) h₄⟩
  by_cases h₅ : n ≤ 0xF4
  · exact .inl ⟨_, start_four (by omega) h₅, follows_four (by omega) h₅⟩
  · right
    rw [start, toNat_ofNat hlt]
    repeat rw [if_neg (by omega)]

/-! ### One more byte -/

/-- A byte that cannot follow is read as if nothing stood before it. -/
theorem unitsFrom_refused {p : Partial} {b : UInt8} (h : p.accepts b = false) (bs : Bytes) :
    unitsFrom (some p) (b :: bs) = none :: unitsFrom none (b :: bs) := by
  conv => lhs; rw [unitsFrom, if_neg (by simp [h])]
  rw [unitsFrom]

/-- One more byte gives the last six bits of the value. -/
theorem Partial.extended_div_mod (p : Partial) {b : UInt8} (hlow : 0x80 ≤ b.toNat)
    (hhigh : b.toNat ≤ 0xBF) :
    p.extended b / 64 = p.value ∧ p.extended b % 64 + 0x80 = b.toNat := by
  unfold Partial.extended
  generalize b.toNat = n at hlow hhigh
  omega

namespace Partial.Follows

variable {p : Partial} {u : Bytes} (h : p.Follows u)
include h

/-- One more byte that can follow is one more byte of the characters that are left. -/
theorem spells_of_accepts {b : UInt8} (hb : p.accepts b = true) {m : Nat} (hm : p.missing = m + 1)
    {v : Nat} (hv : v / 64 ^ m = p.extended b) :
    String.utf8EncodeChar (Char.ofNat v) = u ++ [b] ++ tail m v := by
  rw [Partial.accepts, Bool.and_eq_true, decide_eq_true_eq, decide_eq_true_eq] at hb
  have hlow := h.low_le
  have hhigh := h.high_le
  -- The value of the byte is within the bounds that `h.spells` asks for.
  have hvalue := p.extended_div_mod (Nat.le_trans hlow hb.1) (Nat.le_trans hb.2 hhigh)
  rw [← hv] at hvalue
  have hspells := h.spells v
  rw [hm, Nat.pow_succ, ← Nat.div_div_eq_div_mul, Nat.add_sub_cancel, hvalue.2] at hspells
  rw [hspells hvalue.1 hb.1 hb.2, tail, hvalue.2, UInt8.ofNat_toNat, List.append_assoc,
    List.singleton_append]

/-- The last byte completes a character. -/
theorem encode_of_accepts {b : UInt8} (hb : p.accepts b = true) (hm : p.missing = 1) :
    String.utf8EncodeChar (Char.ofNat (p.extended b)) = u ++ [b] := by
  have hspells := h.spells_of_accepts hb (m := 0) hm (v := p.extended b) (by simp)
  rwa [tail, List.append_nil] at hspells

/-- Any other byte leads on to the next one. -/
theorem more {b : UInt8} (hb : p.accepts b = true) (hm : p.missing ≠ 1) :
    Partial.Follows ⟨p.missing - 1, 0x80, 0xBF, p.extended b⟩ (u ++ [b]) where
  ne_nil := by simp
  reads bs := by
    rw [List.append_assoc, List.singleton_append, h.reads, unitsFrom, if_pos hb, if_neg hm]
  missing_pos := by
    have hpos := h.missing_pos
    simp only
    omega
  low_le := by simp
  low_le_high := by simp
  high_le := by simp
  spells v hv _ _ := by
    have hpos := h.missing_pos
    exact h.spells_of_accepts hb (by simp only; omega) hv

/-- Something can follow. -/
theorem begins : Begins u := by
  obtain ⟨m, hm⟩ : ∃ m, p.missing = m + 1 := Nat.exists_eq_add_one.mpr h.missing_pos
  have hlow := h.low_le
  have hle := h.low_le_high
  have hhigh := h.high_le
  -- The least byte that can follow, and zeros after that, make up a character.
  have hbyte : p.accepts (UInt8.ofNat p.low) = true :=
    Partial.accepts_ofNat (by omega) (Nat.le_refl _) hle
  have hspells := h.spells_of_accepts hbyte hm
    (Nat.mul_div_cancel (p.extended (UInt8.ofNat p.low)) (Nat.pow_pos (by decide)))
  exact ⟨_, _, by simp, hspells.trans (List.append_assoc _ _ _)⟩

/-- **No character goes on with another byte.** -/
theorem not_prefix {b : UInt8} (hb : p.accepts b = false) (c : Char) :
    ¬ u ++ [b] <+: String.utf8EncodeChar c := by
  rintro ⟨w, hw⟩
  -- Read from the start, the character would be found and a fault as well.
  have hread := unitsFrom_encode c
  rw [← hw, List.append_assoc, List.singleton_append, h.reads, unitsFrom_refused hb] at hread
  cases hread

/-- Reading goes on inside a character as long as the bytes begin one. -/
theorem append {w : Bytes} (hw : Begins (u ++ w)) : ∃ q, Partial.Follows q (u ++ w) := by
  induction w generalizing p u with
  | nil => exact ⟨p, by rwa [List.append_nil]⟩
  | cons b w ih =>
    rw [List.append_cons] at hw ⊢
    cases hb : p.accepts b with
    | true =>
      by_cases hm : p.missing = 1
      · exact absurd (h.encode_of_accepts hb hm) (hw.of_append.ne_encode _)
      · exact ih (h.more hb hm) hw
    | false =>
      obtain ⟨c, hc⟩ := hw.of_append.exists_prefix
      exact absurd hc (h.not_prefix hb c)

/-- A byte cannot follow with which no character goes on. -/
theorem accepts_eq_false {b : UInt8} (hb : ∀ c, ¬ u ++ [b] <+: String.utf8EncodeChar c) :
    p.accepts b = false := by
  rw [Bool.eq_false_iff]
  intro haccepts
  by_cases hm : p.missing = 1
  · exact hb _ ⟨[], by rw [h.encode_of_accepts haccepts hm, List.append_nil]⟩
  · obtain ⟨c, hc⟩ := (h.more haccepts hm).begins.exists_prefix
    exact hb c hc

end Partial.Follows

/-- No character begins with a byte that starts none. -/
theorem not_prefix_of_start {b : UInt8} (hb : start b = .fault) (c : Char) :
    ¬ [b] <+: String.utf8EncodeChar c := by
  rintro ⟨w, hw⟩
  have hread := unitsFrom_encode c
  have hfault : unitsFrom none (b :: w) = none :: unitsFrom none w := by rw [unitsFrom, hb]
  rw [← hw, List.singleton_append, hfault] at hread
  cases hread

/-- Between two characters the beginning of one leads into it. -/
theorem Begins.follows {u : Bytes} (h : Begins u) (hne : u ≠ []) :
    ∃ p, Partial.Follows p u := by
  obtain ⟨b, w, rfl⟩ := List.exists_cons_of_ne_nil hne
  rw [← List.singleton_append] at h ⊢
  rcases cases_start b with ⟨c, -, hc⟩ | ⟨p, -, hp⟩ | hb
  · exact absurd hc (h.of_append.ne_encode c)
  · exact hp.append h
  · obtain ⟨c, hc⟩ := h.of_append.exists_prefix
    exact absurd hc (not_prefix_of_start hb c)

/-- **Bytes that stand for no character are one fault.** -/
theorem IsFault.unitsFrom_append {u rest : Bytes} (h : IsFault u rest) :
    unitsFrom none (u ++ rest) = none :: unitsFrom none rest := by
  cases h with
  | @lone b _ h =>
    rcases cases_start b with ⟨c, -, hc⟩ | ⟨p, -, hp⟩ | hb
    · exact absurd ⟨[], by rw [hc, List.append_nil]⟩ (h c)
    · obtain ⟨c, hc⟩ := hp.begins.exists_prefix
      exact absurd hc (h c)
    · rw [List.singleton_append, unitsFrom, hb]
  | cut hne hbegins hends =>
    obtain ⟨p, hp⟩ := hbegins.follows hne
    rw [hp.reads]
    cases rest with
    | nil => rfl
    | cons b rest => exact unitsFrom_refused (hp.accepts_eq_false (hends b rfl)) rest

/-! ### Bytes and units -/

/-- The text of units, with U+FFFD for the faults among them. -/
def shown (us : List (Option Char)) : Text := us.map (·.getD replacement)

/-- What the decoder finds between two characters, and what it finds inside one. -/
theorem reads_unitsFrom (bs : Bytes) :
    Reads bs (shown (unitsFrom none bs)) ∧
      ∀ p u, Partial.Follows p u → Reads (u ++ bs) (shown (unitsFrom (some p) bs)) := by
  -- Both at once, since a byte that is refused inside a character is read again as a first one.
  induction bs with
  | nil =>
    refine ⟨.nil, fun p u h => ?_⟩
    exact .fault (.cut h.ne_nil h.begins (by simp)) .nil
  | cons b bs ih =>
    obtain ⟨hnone, hsome⟩ := ih
    have hstart : Reads (b :: bs) (shown (unitsFrom none (b :: bs))) := by
      rw [unitsFrom]
      rcases cases_start b with ⟨c, hb, hc⟩ | ⟨p, hb, hp⟩ | hb
      · rw [hb]
        have hread := Reads.char c hnone
        rwa [hc] at hread
      · rw [hb]
        exact hsome p [b] hp
      · rw [hb]
        exact .fault (.lone (not_prefix_of_start hb)) hnone
    refine ⟨hstart, fun p u h => ?_⟩
    cases hb : p.accepts b with
    | true =>
      rw [unitsFrom, if_pos hb, List.append_cons]
      split
      · next hm =>
        rw [← h.encode_of_accepts hb hm, shown, List.map_cons, Option.getD_some, ← shown]
        exact .char _ hnone
      · next hm => exact hsome _ _ (h.more hb hm)
    | false =>
      rw [unitsFrom_refused hb]
      refine .fault (.cut h.ne_nil h.begins ?_) hstart
      rintro _ ⟨⟩
      exact h.not_prefix hb

end Utf8

/-- **Bytes are read as their lossy text**, and as no other. -/
theorem Bytes.reads_iff {bs : Bytes} {t : Text} : Utf8.Reads bs t ↔ t = lossyText bs := by
  constructor
  · intro h
    show t = Utf8.shown (Utf8.unitsFrom none bs)
    induction h with
    | nil => rfl
    | char c _ ih => rw [Utf8.unitsFrom_char, Utf8.shown, List.map_cons, ← Utf8.shown, ← ih]; rfl
    | fault hu _ ih =>
      rw [hu.unitsFrom_append, Utf8.shown, List.map_cons, ← Utf8.shown, ← ih]
      rfl
  · rintro rfl
    exact (Utf8.reads_unitsFrom bs).1

example : Bytes.lossyText [0x61, 0xE2, 0x82, 0x0D, 0x0A, 0xFF, 0xC0, 0x0A] =
    "a\uFFFD\r\n\uFFFD\uFFFD\n".toList := by decide

theorem Bytes.reads_lossyText (bs : Bytes) : Utf8.Reads bs (lossyText bs) := reads_iff.mpr rfl

/-! ### Newlines -/

/-- **The newlines of bytes are those of the text that they are read as.** -/
theorem Utf8.Reads.tallyFrom {bs : Bytes} {t : Text} (h : Reads bs t) (after : Bool) :
    tallyFrom 0x0D 0x0A after bs = FenceSync.tallyFrom '\r' '\n' after t := by
  induction h generalizing after with
  | nil => rfl
  | char c _ ih => exact Bytes.tallyFrom_encode ih c after
  | fault hu _ ih =>
    obtain ⟨hne, hcr, hlf⟩ := hu.newline_notMem
    rw [tallyFrom_append_of_notMem hcr hlf hne, ih, tallyFrom_of_ne (by decide)]
    rfl

theorem Bytes.tally_lossyText (bs : Bytes) : Text.tally (lossyText bs) = tally bs :=
  ((reads_lossyText bs).tallyFrom false).symm

theorem Bytes.newline_lossyText (bs : Bytes) : Text.newline (lossyText bs) = newline bs := by
  rw [Text.newline, tally_lossyText, newline]

/-- Bytes without a CR are read as a text without one. -/
theorem Bytes.cr_notMem_lossyText {bs : Bytes} (h : 0x0D ∉ bs) : '\r' ∉ lossyText bs := by
  have hread := reads_lossyText bs
  generalize lossyText bs = t at hread
  induction hread with
  | nil => simp
  | char c _ ih =>
    rw [List.mem_append, not_or] at h
    rw [List.mem_cons, not_or]
    refine ⟨?_, ih h.2⟩
    rintro rfl
    exact absurd h.1 (by decide)
  | fault _ _ ih =>
    rw [List.mem_append, not_or] at h
    rw [List.mem_cons, not_or]
    exact ⟨by decide, ih h.2⟩

/-! ### Lines -/

/-- There is one line more than there are newlines among the bytes. -/
theorem length_linesOfOutput (bs : Bytes) :
    (linesOfOutput bs).length = 1 + occurrencesIn (Text.utf8 (Bytes.newline bs).text) bs := by
  rw [linesOfOutput, Text.length_splitOn, Text.occurrences_newline, Bytes.tally_lossyText,
    Newline.utf8_text, occurrencesIn_marks (by decide), Bytes.tally]

theorem length_dedent (lines : List Text) : (dedent lines).length = lines.length := List.length_map _

/-- A range selects from as many lines as a command would print. -/
theorem linesOfFile_eq (range : Option LineRange) (bs : Bytes) :
    linesOfFile range bs =
      dedent ((selectedLines range (linesOfOutput bs).length).slice (linesOfOutput bs)) := rfl

/-- **Newlines are counted in bytes and cut in the text that the bytes are read as**, and both go by
    the same ones.  The lossy text is the only one with U+FFFD for every byte with which no character
    begins and for every beginning of a character that nothing completes.  It encodes the newlines
    of the bytes, so that the convention is the same, and every place at which this newline stands
    among the bytes ends a line, of a file as of the output of a command. -/
theorem Bytes.newlines_lossyText (bs : Bytes) :
    (∀ t, Utf8.Reads bs t ↔ t = lossyText bs) ∧
      tally (Text.utf8 (lossyText bs)) = tally bs ∧
      newline (Text.utf8 (lossyText bs)) = newline bs ∧
      linesOfOutput bs = Text.splitOn (Text.newline (lossyText bs)).text (lossyText bs) ∧
      (linesOfOutput bs).length = 1 + occurrencesIn (Text.utf8 (newline bs).text) bs ∧
      (linesOfFile none bs).length = 1 + occurrencesIn (Text.utf8 (newline bs).text) bs ∧
      ∀ range, linesOfFile range bs =
        dedent ((selectedLines range (1 + occurrencesIn (Text.utf8 (newline bs).text) bs)).slice
          (linesOfOutput bs)) := by
  have hlen := length_linesOfOutput bs
  refine ⟨fun _ => reads_iff, ?_, ?_, ?_, hlen, ?_, fun range => ?_⟩
  · rw [tally_utf8, tally_lossyText]
  · rw [newline_utf8, newline_lossyText]
  · rw [newline_lossyText, linesOfOutput]
  · rw [linesOfFile_eq, length_dedent, selectedLines, LineRange.slice, ← hlen]
    simp
  · rw [linesOfFile_eq, hlen]

end FenceSync
