import FenceSync.Path
import Mathlib.Data.Char
import Mathlib.Data.List.Lex
import Mathlib.Data.List.Sort
import Mathlib.Data.Prod.Lex

namespace FenceSync

/-!
# The order of paths

Paths are compared component by component.  Components have a place in a linear order, so that a path
has one in the dictionary order, and everything about `Path.before` and `Path.same` follows from that.

* `Path.key` is the place of a path; `Path.before_iff` and `Path.same_iff` read the comparisons off it.
* `Path.before_trans` and `Path.before_trichotomy` say that paths are in a strict total order, up to
  the spelling.
* `Path.components_join` says what spellings have in common that lead from one directory to the same
  place: `Path.same_join_iff`.
-/

/-! ### Places -/

namespace Component

/-- The place of a component among all others. -/
def key : Component → ℕ ×ₗ Text
  | .name n => toLex (3, n)
  | c => toLex (c.rank, [])

theorem key_injective : Function.Injective key := by
  intro c d h
  cases c <;> cases d <;> simp_all [key, rank]

theorem before_iff {c d : Component} : c.before d = true ↔ c.key < d.key := by
  cases c <;> cases d <;> simp [before, key, rank, Prod.Lex.toLex_lt_toLex]

end Component

/-- Sequences of components are in dictionary order. -/
theorem componentsBefore_iff {cs ds : List Component} :
    componentsBefore cs ds = true ↔ cs.map Component.key < ds.map Component.key := by
  induction cs generalizing ds with
  | nil => cases ds <;> simp [componentsBefore]
  | cons c cs ih =>
    cases ds with
    | nil => simp [componentsBefore]
    | cons d ds =>
      rw [componentsBefore, Bool.or_eq_true, Bool.and_eq_true, Component.before_iff, ih, beq_iff_eq,
        List.map_cons, List.map_cons, List.cons_lt_cons_iff, Component.key_injective.eq_iff]

namespace Path

/-- The place of a path among all others. -/
def key (p : Path) : List (ℕ ×ₗ Text) := p.components.map Component.key

theorem before_iff {p q : Path} : p.before q = true ↔ p.key < q.key := componentsBefore_iff

theorem same_iff {p q : Path} : p.same q = true ↔ p.key = q.key := by
  rw [same, beq_iff_eq, key, key, (List.map_injective_iff.mpr Component.key_injective).eq_iff]

/-! ### A total order -/

theorem before_trans {p q r : Path} (hpq : p.before q = true) (hqr : q.before r = true) :
    p.before r = true := by
  rw [before_iff] at *
  exact hpq.trans hqr

/-- **Of two paths one comes before the other, unless they are the same**, and nothing else is the
    case then. -/
theorem before_trichotomy (p q : Path) :
    (p.before q = true ∧ p.same q = false ∧ q.before p = false) ∨
      (p.before q = false ∧ p.same q = true ∧ q.before p = false) ∨
      (p.before q = false ∧ p.same q = false ∧ q.before p = true) := by
  simp only [Bool.eq_false_iff, before_iff, same_iff, ne_eq]
  rcases lt_trichotomy p.key q.key with h | h | h
  · exact .inl ⟨h, h.ne, h.asymm⟩
  · exact .inr (.inl ⟨h.not_lt, h, h.not_gt⟩)
  · exact .inr (.inr ⟨h.asymm, h.ne', h⟩)

/-! ### Joining -/

/-- The components that a relative path adds to those of a directory. -/
def steps (t : Text) : List Component := (Text.splitOn ['/'] t).filterMap innerComponent?

theorem splitOn_append_slash (s t : Text) :
    Text.splitOn ['/'] (s ++ '/' :: t) = Text.splitOn ['/'] s ++ Text.splitOn ['/'] t := by
  simp only [Text.splitOn]
  induction s with
  | nil => simp [Text.piecesFrom]
  | cons c s ih =>
    obtain ⟨p, ps, hps⟩ := List.exists_cons_of_ne_nil (Text.piecesFrom_ne_nil ['/'] 0 s)
    rw [hps] at ih
    by_cases hc : c = '/'
    · subst hc
      simp [Text.piecesFrom, ih, hps]
    · simp [Text.piecesFrom, Ne.symm hc, ih, hps, Text.consLine]

theorem components_append_slash (d t : Text) :
    components ⟨d ++ '/' :: t⟩ = (if d = [] then [.root] else components ⟨d⟩) ++ steps t := by
  have hhead : (Text.splitOn ['/'] d ++ Text.splitOn ['/'] t).head? =
      (Text.splitOn ['/'] d).head? := by
    obtain ⟨p, ps, hps⟩ := List.exists_cons_of_ne_nil (Text.splitOn_ne_nil ['/'] d)
    rw [hps]
    rfl
  cases d with
  | nil => rfl
  | cons c d =>
    have habs : isAbsolute ⟨c :: d ++ '/' :: t⟩ = isAbsolute ⟨c :: d⟩ := rfl
    simp only [components, habs, splitOn_append_slash, hhead, List.filterMap_append,
      reduceCtorEq, if_false, steps, List.append_assoc]

/-- **A relative path continues the components of a directory.** -/
theorem components_join {dir p : Path} (hdir : dir.spelling ≠ []) (hp : p.isAbsolute = false) :
    (dir.join p).components = dir.components ++ steps p.spelling := by
  obtain ⟨d⟩ := dir
  rw [join, if_neg (by simp [hp])]
  by_cases hslash : d.getLast? = some '/'
  · obtain ⟨d', rfl⟩ := List.getLast?_eq_some_iff.mp hslash
    rw [if_pos (.inr hslash), List.append_assoc, List.singleton_append, components_append_slash,
      components_append_slash]
    simp [steps, Text.splitOn, Text.piecesFrom, innerComponent?]
  · rw [if_neg (by simp [hslash, show d ≠ [] from hdir]), components_append_slash,
      if_neg (show d ≠ [] from hdir)]

/-- **Relative paths lead to the same place** if they add the same components: empty pieces and single
    dots between slashes make no difference. -/
theorem same_join_iff {dir p q : Path} (hdir : dir.spelling ≠ []) (hp : p.isAbsolute = false)
    (hq : q.isAbsolute = false) :
    (dir.join p).same (dir.join q) = true ↔ steps p.spelling = steps q.spelling := by
  rw [same, beq_iff_eq, components_join hdir hp, components_join hdir hq, List.append_cancel_left_eq]

end Path

end FenceSync
