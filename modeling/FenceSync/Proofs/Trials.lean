import Mathlib.Logic.Function.Iterate
import FenceSync.Proofs.Fences
import FenceSync.Trial

namespace FenceSync

/-!
# What trials find

Whatever number of retreats it is allowed, a trial that does not give up finds the same.  What it
finds is put together from what its parts find.

* `Trial.Finds` says that a trial succeeds unless it gives up, and what it finds then.
* `Trial.FindsOnly` says what a trial finds if it succeeds.

A trial that prefers one way to go on finds what is behind this way, if anything is; that it finds
nothing else has to be known of every way.
-/

namespace Trial

variable {β : Type}

/-- The result of the trial is `x`, unless it gives up. -/
def Finds (a : Trial β) (x : β) : Prop := ∀ n, a n = .exhausted ∨ a n = .found x

/-- The result of the trial if it succeeds; with `none`, it does not succeed. -/
def FindsOnly (a : Trial β) (r : Option β) : Prop := ∀ n x, a n = .found x → r = some x

theorem Finds.findsOnly {a : Trial β} {x : β} (h : Finds a x) :
    FindsOnly a (some x) := by
  intro n y hn
  rcases h n with he | hf
  · rw [he] at hn
    cases hn
  · rw [hf] at hn
    injection hn with hn
    rw [hn]

theorem FindsOnly.of_none {a : Trial β} (h : FindsOnly a none) (r : Option β) :
    FindsOnly a r := by
  intro n x hn
  cases h n x hn

theorem findsOnly_fail (r : Option β) : FindsOnly fail r := by
  intro n x hn
  cases hn

/-! ### Going back -/

theorem Finds.retreat {a : Trial β} {x : β} (h : Finds a x) : Finds a.retreat x := by
  intro n
  cases n with
  | zero => exact .inl rfl
  | succ n => exact h n

theorem FindsOnly.retreat {a : Trial β} {r : Option β} (h : FindsOnly a r) :
    FindsOnly a.retreat r := by
  intro n x hn
  cases n with
  | zero => cases hn
  | succ n => exact h n x hn

theorem Finds.iterate_retreat {a : Trial β} {x : β} (h : Finds a x) (k : Nat) :
    Finds (Trial.retreat^[k] a) x := by
  induction k with
  | zero => exact h
  | succ k ih =>
    rw [Function.iterate_succ_apply']
    exact ih.retreat

theorem FindsOnly.iterate_retreat {a : Trial β} {r : Option β} (h : FindsOnly a r) (k : Nat) :
    FindsOnly (Trial.retreat^[k] a) r := by
  induction k with
  | zero => exact h
  | succ k ih =>
    rw [Function.iterate_succ_apply']
    exact ih.retreat

theorem Finds.orElse_left {a : Trial β} {x : β} (h : Finds a x) (b : Trial β) :
    Finds (a.orElse b) x := by
  intro n
  rw [Trial.orElse]
  rcases h n with he | hf
  · rw [he]
    exact .inl rfl
  · rw [hf]
    exact .inr rfl

/-- If the first trial finds anything, then it finds what the second one does. -/
theorem Finds.orElse_right {a b : Trial β} {x : β} (ha : FindsOnly a (some x))
    (hb : Finds b x) : Finds (a.orElse b) x := by
  intro n
  rw [Trial.orElse]
  cases hn : a n with
  | found y =>
    rw [Option.some.inj (ha n y hn)]
    exact .inr rfl
  | failed m => exact hb.retreat m
  | exhausted => exact .inl rfl

theorem FindsOnly.orElse {a b : Trial β} {r : Option β} (ha : FindsOnly a r)
    (hb : FindsOnly b r) : FindsOnly (a.orElse b) r := by
  intro n x hn
  rw [Trial.orElse] at hn
  cases ha' : a n with
  | found y =>
    rw [ha'] at hn
    injection hn with hn
    rw [← hn]
    exact ha n y ha'
  | failed m =>
    rw [ha'] at hn
    exact hb.retreat m x hn
  | exhausted =>
    rw [ha'] at hn
    cases hn

/-- Going back at once and then going on is going back twice. -/
theorem orElse_retreat_fail (a : Trial β) : (retreat fail).orElse a = a.retreat.retreat := by
  funext n
  rcases n with _ | _ | n <;> rfl

/-! ### Passing over a part of a text -/

variable {k : Text → Trial β} {r : Option β}

theorem FindsOnly.eachOf {ts : List Text} (h : ∀ t ∈ ts, FindsOnly (k t) r) :
    FindsOnly (eachOf k ts) r := by
  induction ts with
  | nil => exact findsOnly_fail r
  | cons t ts ih =>
    intro n x hn
    cases n with
    | zero => cases hn
    | succ n =>
      rw [Trial.eachOf] at hn
      cases ht : k t n with
      | found y =>
        rw [ht] at hn
        injection hn with hn
        rw [← hn]
        exact h t (by simp) n y ht
      | failed m =>
        rw [ht] at hn
        exact ih (fun t ht => h t (by simp [ht])) m x hn
      | exhausted =>
        rw [ht] at hn
        cases hn

/-- A tail is left by a run of characters of the kind. -/
theorem mem_tailsBehind {p : Char → Bool} {done : List Text} {t u : Text}
    (h : u ∈ tailsBehind p done t) :
    u ∈ done ∨ ∃ s, t = s ++ u ∧ ∀ c ∈ s, p c = true := by
  induction t generalizing done with
  | nil =>
    rw [tailsBehind, List.mem_cons] at h
    rcases h with rfl | h
    · exact .inr ⟨[], rfl, by simp⟩
    · exact .inl h
  | cons c t ih =>
    rw [tailsBehind] at h
    split at h
    · next hc =>
      rcases ih h with hdone | ⟨s, rfl, hs⟩
      · rcases List.mem_cons.mp hdone with rfl | hdone
        · exact .inr ⟨[], rfl, by simp⟩
        · exact .inl hdone
      · exact .inr ⟨c :: s, rfl, List.forall_mem_cons.mpr ⟨hc, hs⟩⟩
    · rcases List.mem_cons.mp h with rfl | h
      · exact .inr ⟨[], rfl, by simp⟩
      · exact .inl h

/-- The first tail is the shortest one. -/
theorem tailsBehind_eq_cons (p : Char → Bool) (done : List Text) (t : Text) :
    ∃ ts, tailsBehind p done t = t.dropWhile p :: ts := by
  induction t generalizing done with
  | nil => exact ⟨done, rfl⟩
  | cons c t ih =>
    rw [tailsBehind]
    split
    · next hc =>
      rw [List.dropWhile_cons_of_pos hc]
      exact ih _
    · next hc =>
      rw [List.dropWhile_cons_of_neg hc]
      exact ⟨done, rfl⟩

theorem Finds.many {p : Char → Bool} {t : Text} {x : β} (h : Finds (k (t.dropWhile p)) x) :
    Finds (many p k t) x := by
  obtain ⟨ts, hts⟩ := tailsBehind_eq_cons p [] t
  intro n
  rw [Trial.many, hts]
  cases n with
  | zero => exact .inl rfl
  | succ n =>
    rw [Trial.eachOf]
    rcases h n with he | hf
    · rw [he]
      exact .inl rfl
    · rw [hf]
      exact .inr rfl

theorem Finds.many_append {p : Char → Bool} {s t : Text} {x : β} (h : Finds (k t) x)
    (hs : ∀ c ∈ s, p c = true) (ht : ∀ c ∈ t.head?, p c = false) :
    Finds (Trial.many p k (s ++ t)) x := by
  refine Finds.many ?_
  rwa [(Fence.takeWhile_append_eq hs ht).2]

theorem Finds.manyOne_append {p : Char → Bool} {s t : Text} {x : β} (h : Finds (k t) x)
    (hne : s ≠ []) (hs : ∀ c ∈ s, p c = true) (ht : ∀ c ∈ t.head?, p c = false) :
    Finds (manyOne p k (s ++ t)) x := by
  obtain ⟨c, s, rfl⟩ := List.exists_cons_of_ne_nil hne
  rw [List.forall_mem_cons] at hs
  rw [List.cons_append, Trial.manyOne, if_pos hs.1]
  exact h.many_append hs.2 ht

theorem FindsOnly.many {p : Char → Bool} {t : Text}
    (h : ∀ s u, t = s ++ u → (∀ c ∈ s, p c = true) → FindsOnly (k u) r) :
    FindsOnly (many p k t) r := by
  refine FindsOnly.eachOf ?_
  intro u hu
  rcases mem_tailsBehind hu with hu | ⟨s, hs, hp⟩
  · cases hu
  · exact h s u hs hp

theorem FindsOnly.manyOne {p : Char → Bool} {t : Text}
    (h : ∀ s u, t = s ++ u → s ≠ [] → (∀ c ∈ s, p c = true) → FindsOnly (k u) r) :
    FindsOnly (manyOne p k t) r := by
  cases t with
  | nil => exact findsOnly_fail r
  | cons c t =>
    rw [Trial.manyOne]
    split
    · next hc =>
      refine FindsOnly.many ?_
      rintro s u rfl hs
      exact h (c :: s) u rfl (List.cons_ne_nil c s) (List.forall_mem_cons.mpr ⟨hc, hs⟩)
    · exact findsOnly_fail r

/-- Passing over one character more is another way to go on. -/
theorem few_cons {p : Char → Bool} {c : Char} (hc : p c = true) (t : Text) :
    few p k (c :: t) = (k t).orElse (few p k t) := by
  funext n
  rw [Trial.few, if_pos hc, Trial.orElse]
  cases k t n with
  | found x => rfl
  | failed m => cases m <;> rfl
  | exhausted => rfl

theorem FindsOnly.few {p : Char → Bool} {t : Text}
    (h : ∀ s u, t = s ++ u → (∀ c ∈ s, p c = true) → FindsOnly (k u) r) :
    FindsOnly (few p k t) r := by
  induction t with
  | nil => exact findsOnly_fail r
  | cons c t ih =>
    by_cases hc : p c = true
    · rw [few_cons hc]
      refine FindsOnly.orElse (h [c] t rfl (by simpa using hc)) (ih ?_)
      rintro s u rfl hs
      exact h (c :: s) u rfl (List.forall_mem_cons.mpr ⟨hc, hs⟩)
    · intro n x hn
      rw [Trial.few, if_neg hc] at hn
      cases hn

/-- More and more characters are passed over, until something is found; so nothing else may be found
    on the way. -/
theorem Finds.few_append {p : Char → Bool} {s t : Text} {x : β} (h : Finds (k t) x) (hne : s ≠ [])
    (hs : ∀ c ∈ s, p c = true)
    (hall : ∀ s' u, s ++ t = s' ++ u → (∀ c ∈ s', p c = true) → FindsOnly (k u) (some x)) :
    Finds (few p k (s ++ t)) x := by
  induction s with
  | nil => exact absurd rfl hne
  | cons c s ih =>
    rw [List.forall_mem_cons] at hs
    rw [List.cons_append, few_cons hs.1]
    cases s with
    | nil => exact h.orElse_left _
    | cons d s =>
      refine Finds.orElse_right (hall [c] _ rfl (by simpa using hs.1)) ?_
      refine ih (List.cons_ne_nil d s) hs.2 ?_
      intro s' u hu hs'
      exact hall (c :: s') u (by rw [List.cons_append, hu]; rfl)
        (List.forall_mem_cons.mpr ⟨hs.1, hs'⟩)

theorem Finds.word {t : Text} {x : β} (h : Finds (k t) x) (w : Text) :
    Finds (word w k (w ++ t)) x := by
  rw [Trial.word, Text.after?_append]
  exact h

theorem FindsOnly.word {w t : Text} (h : ∀ u, t = w ++ u → FindsOnly (k u) r) :
    FindsOnly (word w k t) r := by
  rw [Trial.word]
  split
  · next u hu => exact h u (Text.eq_append_of_after? hu)
  · exact findsOnly_fail r

theorem Finds.newline {t ending : Text} {x : β} (h : Finds (k t) x)
    (hending : ending ∈ lineEndings) : Finds (newline k (ending ++ t)) x := by
  simp only [lineEndings, List.mem_cons, List.not_mem_nil, or_false] at hending
  rcases hending with rfl | rfl
  · exact (h.word ['\n']).retreat
  · exact (h.word ['\n']).orElse_left _

theorem FindsOnly.newline {t : Text}
    (h : ∀ ending ∈ lineEndings, ∀ u, t = ending ++ u → FindsOnly (k u) r) :
    FindsOnly (newline k t) r := by
  have hlf : FindsOnly (Trial.word ['\n'] k t) r := by
    refine FindsOnly.word ?_
    intro u hu
    exact h ['\n'] (by decide) u hu
  rw [Trial.newline, optional]
  split
  · next hcr =>
    refine FindsOnly.orElse (FindsOnly.word ?_) hlf
    intro u hu
    refine h ['\r', '\n'] (by decide) u ?_
    cases t with
    | nil => cases hcr
    | cons c t =>
      cases hcr
      rw [List.drop_one, List.tail_cons] at hu
      rw [hu]
      rfl
  · exact hlf.retreat

end Trial

end FenceSync
