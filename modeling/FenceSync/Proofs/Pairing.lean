import FenceSync.Block
import FenceSync.Proofs.Fences

namespace FenceSync

/-!
# Pairing fences

Which opening fence goes with which closing one: from the top, the first opening fence that has a
closing fence further on goes with the first such one, and the search goes on behind it.

* `Pair` is an opening fence with its closing fence, and with the lines before and between them.
* `Greedy` is the rule, as a relation between lines and pairs.
* `Greedy.exists` and `Greedy.unique` say that it determines the pairs.
-/

/-- An opening fence and the closing fence that goes with it, with the lines between them and the
    lines before them that belong to no other pair. -/
structure Pair where
  before : List Text
  opener : Text
  fence : Fence
  inner : List Text
  closer : Text

/-- All lines of a pair, in order. -/
def Pair.lines (p : Pair) : List Text := p.before ++ p.opener :: (p.inner ++ [p.closer])

/-- The block of a pair, with the marker in force behind the lines before it. -/
def Pair.snippet (p : Pair) : Snippet :=
  ⟨p.before.foldl Marker.across .absent, p.fence, p.inner.flatten⟩

/-- No opening fence among `ls` has a closing fence further on, be it in `later`. -/
def Unpaired (ls later : List Text) : Prop :=
  ∀ pre op post, ls = pre ++ op :: post → ∀ f : Fence, f.Opens op →
    ∀ line ∈ post ++ later, ¬ Closes f.indent line

/-- **The rule.**  The first opening fence that has a closing fence further on is paired with the
    first such one; the lines behind that one are paired in the same way.  What is left over has no
    pairs. -/
inductive Greedy : List Text → List Pair → List Text → Prop
  /-- There is no pair among the lines. -/
  | done {ls : List Text} (unpaired : Unpaired ls []) : Greedy ls [] ls
  /-- The first pair is followed by the others. -/
  | pair {p : Pair} {later tail : List Text} {ps : List Pair}
      (skipped : Unpaired p.before (p.opener :: (p.inner ++ p.closer :: later)))
      (opens : p.fence.Opens p.opener)
      (inside : ∀ line ∈ p.inner, ¬ Closes p.fence.indent line)
      (closes : Closes p.fence.indent p.closer)
      (rest : Greedy later ps tail) :
      Greedy (p.before ++ p.opener :: (p.inner ++ p.closer :: later)) (p :: ps) tail

/-! ### Lines without a pair -/

theorem unpaired_nil (later : List Text) : Unpaired [] later := by
  intro pre op post h
  simp at h

theorem unpaired_cons {line : Text} {ls later : List Text} :
    Unpaired (line :: ls) later ↔
      (∀ f : Fence, f.Opens line → ∀ l ∈ ls ++ later, ¬ Closes f.indent l) ∧
        Unpaired ls later := by
  constructor
  · intro h
    refine ⟨h [] line ls rfl, ?_⟩
    intro pre op post hls
    exact h (line :: pre) op post (by rw [hls, List.cons_append])
  · rintro ⟨hline, hls⟩ pre op post h
    cases pre with
    | nil =>
      injection h with h₁ h₂
      subst h₁ h₂
      exact hline
    | cons l pre =>
      injection h with _ h₂
      exact hls pre op post h₂

theorem Unpaired.not_closes {ls later : List Text} (h : Unpaired ls later) {pre post : List Text}
    {op line : Text} {f : Fence} (hls : ls = pre ++ op :: post) (hop : f.Opens op)
    (hline : line ∈ post ++ later) : ¬ Closes f.indent line := h pre op post hls f hop line hline

theorem Unpaired.of_append {before ls later : List Text} (h : Unpaired (before ++ ls) later) :
    Unpaired ls later := by
  rintro pre op post rfl
  exact h (before ++ pre) op post (List.append_assoc before pre (op :: post)).symm

/-! ### The pairs of given lines -/

/-- A first closing fence splits the lines that hold one. -/
theorem exists_first_closing {i : Text} {ls : List Text} (h : ∃ line ∈ ls, Closes i line) :
    ∃ inner closer later, ls = inner ++ closer :: later ∧
      (∀ line ∈ inner, ¬ Closes i line) ∧ Closes i closer := by
  induction ls with
  | nil => simp at h
  | cons line ls ih =>
    by_cases hline : Closes i line
    · exact ⟨[], line, ls, rfl, by simp, hline⟩
    · obtain ⟨l, hl, hc⟩ := h
      have hl' : l ∈ ls := by
        rcases List.mem_cons.mp hl with rfl | hl
        · exact absurd hc hline
        · exact hl
      obtain ⟨inner, closer, later, rfl, hinner, hcloser⟩ := ih ⟨l, hl', hc⟩
      refine ⟨line :: inner, closer, later, rfl, ?_, hcloser⟩
      intro l hl
      rcases List.mem_cons.mp hl with rfl | hl
      · exact hline
      · exact hinner l hl

/-- Lines have no pair, or a first one. -/
theorem unpaired_or_exists_pair (ls : List Text) :
    Unpaired ls [] ∨ ∃ (p : Pair) (later : List Text),
      ls = p.before ++ p.opener :: (p.inner ++ p.closer :: later) ∧
      Unpaired p.before (p.opener :: (p.inner ++ p.closer :: later)) ∧
      p.fence.Opens p.opener ∧ (∀ line ∈ p.inner, ¬ Closes p.fence.indent line) ∧
      Closes p.fence.indent p.closer := by
  induction ls with
  | nil => exact .inl (unpaired_nil [])
  | cons line ls ih =>
    -- The first line opens the first pair, or it is one of the lines before that.
    by_cases hline : ∃ f : Fence, f.Opens line ∧ ∃ l ∈ ls, Closes f.indent l
    · obtain ⟨f, hf, hl⟩ := hline
      obtain ⟨inner, closer, later, rfl, hinner, hcloser⟩ := exists_first_closing hl
      exact .inr ⟨⟨[], line, f, inner, closer⟩, later, rfl, unpaired_nil _, hf, hinner, hcloser⟩
    · have hskip : ∀ f : Fence, f.Opens line → ∀ l ∈ ls, ¬ Closes f.indent l :=
        fun f hf l hl hc => hline ⟨f, hf, l, hl, hc⟩
      rcases ih with h | ⟨p, later, rfl, hbefore, hop, hinner, hcloser⟩
      · left
        rw [unpaired_cons, List.append_nil]
        exact ⟨hskip, h⟩
      · right
        refine ⟨{ p with before := line :: p.before }, later, rfl, ?_, hop, hinner, hcloser⟩
        exact unpaired_cons.mpr ⟨hskip, hbefore⟩

/-- **Every sequence of lines can be paired.** -/
theorem Greedy.exists (ls : List Text) : ∃ ps tail, Greedy ls ps tail := by
  induction hn : ls.length using Nat.strong_induction_on generalizing ls with
  | _ n ih =>
    rcases unpaired_or_exists_pair ls with h | ⟨p, later, rfl, hbefore, hop, hinner, hcloser⟩
    · exact ⟨[], ls, .done h⟩
    · have hlen : later.length < n := by
        simp only [List.length_append, List.length_cons] at hn
        omega
      obtain ⟨ps, tail, hrest⟩ := ih later.length hlen later rfl
      exact ⟨p :: ps, tail, .pair hbefore hop hinner hcloser hrest⟩

/-- Pairs concatenate to the lines that they were found in. -/
theorem Greedy.lines_eq {ls tail : List Text} {ps : List Pair} (h : Greedy ls ps tail) :
    ls = ps.flatMap Pair.lines ++ tail := by
  induction h with
  | done _ => simp
  | pair _ _ _ _ _ ih =>
    rw [List.flatMap_cons, List.append_assoc, ← ih, Pair.lines]
    simp

/-- Every pair has lines of its own. -/
theorem Greedy.length_le {ls tail : List Text} {ps : List Pair} (h : Greedy ls ps tail) :
    ps.length ≤ ls.length := by
  induction h with
  | done _ => exact Nat.zero_le _
  | pair _ _ _ _ _ ih =>
    simp only [List.length_append, List.length_cons]
    omega

/-- Two ways of cutting a sequence at an element: they agree, or the element of one lies inside the
    first part of the other. -/
theorem append_cons_eq_cases {α : Type} {a b a' b' : List α} {x x' : α}
    (h : a ++ x :: b = a' ++ x' :: b') :
    (a = a' ∧ x = x' ∧ b = b') ∨ (∃ c, a' = a ++ x :: c ∧ b = c ++ x' :: b') ∨
      ∃ c, a = a' ++ x' :: c ∧ b' = c ++ x :: b := by
  rcases List.append_eq_append_iff.mp h with ⟨c, hc, hx⟩ | ⟨c, hc, hx⟩
  all_goals
    cases c with
    | nil => simp_all
    | cons y c => simp_all

theorem Greedy.not_unpaired_pair {p : Pair} {later more : List Text}
    (opens : p.fence.Opens p.opener) (closes : Closes p.fence.indent p.closer)
    (h : Unpaired (p.before ++ p.opener :: (p.inner ++ p.closer :: later)) more) : False :=
  h.not_closes rfl opens (by simp) closes

/-- **The pairs are determined by the lines.** -/
theorem Greedy.unique {ls tail tail' : List Text} {ps ps' : List Pair} (h : Greedy ls ps tail)
    (h' : Greedy ls ps' tail') : ps = ps' ∧ tail = tail' := by
  induction h generalizing ps' tail' with
  | done hun =>
    cases h' with
    | done _ => exact ⟨rfl, rfl⟩
    | pair _ opens _ closes _ => exact (Greedy.not_unpaired_pair opens closes hun).elim
  | @pair p later tail ps skipped opens inside closes rest ih =>
    generalize hls : p.before ++ p.opener :: (p.inner ++ p.closer :: later) = ls at h'
    cases h' with
    | done hun =>
      subst hls
      exact (Greedy.not_unpaired_pair opens closes hun).elim
    | @pair q later' tail' qs skipped' opens' inside' closes' rest' =>
      -- The opening fences are the same line: else one of them would be skipped by the other pair.
      rcases append_cons_eq_cases hls with ⟨hb, ho, hi⟩ | ⟨c, hc, hi⟩ | ⟨c, hc, hi⟩
      · have hf : p.fence = q.fence := opens.unique (ho ▸ opens')
        -- So are the closing fences: else one of them would lie inside the other pair.
        rcases append_cons_eq_cases hi with ⟨hin, hcl, hla⟩ | ⟨c, hc, -⟩ | ⟨c, hc, -⟩
        · subst hla
          obtain ⟨hps, htail⟩ := ih rest'
          subst htail
          refine ⟨?_, rfl⟩
          rw [hps]
          congr 1
          cases p
          cases q
          simp_all
        · exact absurd closes (hf ▸ inside' p.closer (by rw [hc]; simp))
        · exact absurd closes' (hf ▸ inside q.closer (by rw [hc]; simp))
      · have hmem : p.closer ∈ c ++ q.opener :: (q.inner ++ q.closer :: later') := by
          rw [← hi]; simp
        exact absurd closes (skipped'.not_closes hc opens hmem)
      · have hmem : q.closer ∈ c ++ p.opener :: (p.inner ++ p.closer :: later) := by
          rw [← hi]; simp
        exact absurd closes' (skipped.not_closes hc opens' hmem)

end FenceSync
