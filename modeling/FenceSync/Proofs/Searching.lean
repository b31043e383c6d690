import FenceSync.Proofs.Approach
import FenceSync.Proofs.Pairing

namespace FenceSync

/-!
# What the search for blocks finds

The search goes back and forth in a text, character by character, and counts how often.  If it does
not give up, then it pairs the fences of the lines, and captures the markers above them.

* `Search.findsOnly_next_of_unpaired` and `Search.finds_next_of_pair` say that a search finds the
  first pair of the lines, with the marker that is in force there, or nothing if there is none.
* `Search.visits_of_greedy` says the same of all searches of a text, one after the other.
-/

namespace Search

open Trial

variable (size : Nat)

/-! ### From line to line -/

theorem next_nil (starts : Bool) :
    next size starts [] = (if starts then block size [] else Trial.retreat fail).orElse fail := by
  funext n
  rw [next, Trial.orElse, ite_apply]
  generalize (if starts then block size [] n else Trial.retreat fail n) = e
  cases e <;> rfl

theorem next_cons (starts : Bool) (c : Char) (t : Text) :
    next size starts (c :: t) =
      (if starts then block size (c :: t) else Trial.retreat fail).orElse
        (next size (c == '\n') t) := by
  funext n
  rw [next, Trial.orElse, ite_apply]
  generalize (if starts then block size (c :: t) n else Trial.retreat fail n) = e
  cases e with
  | found hit => rfl
  | failed m => cases m <;> rfl
  | exhausted => rfl

theorem exists_next_eq_orElse (t : Text) : ∃ b, next size true t = (block size t).orElse b := by
  cases t with
  | nil => exact ⟨_, next_nil size true⟩
  | cons c t => exact ⟨_, next_cons size true c t⟩

/-- Inside a line no block starts. -/
theorem next_inside {body : Text} (h : '\n' ∉ body) (t : Text) :
    next size false (body ++ t) = Trial.retreat^[2 * body.length] (next size false t) := by
  induction body with
  | nil => rfl
  | cons c body ih =>
    rw [List.mem_cons, not_or] at h
    rw [List.cons_append, next_cons, beq_eq_false_iff_ne.mpr (Ne.symm h.1), ih h.2,
      if_neg Bool.false_ne_true, orElse_retreat_fail, ← Function.iterate_succ_apply' Trial.retreat,
      ← Function.iterate_succ_apply' Trial.retreat]
    rfl

theorem next_lf (t : Text) :
    next size false ('\n' :: t) = Trial.retreat^[2] (next size true t) := by
  rw [next_cons, if_neg Bool.false_ne_true, orElse_retreat_fail]
  rfl

/-- From the start of a whole line a search goes on to the next one. -/
theorem next_isWhole {line : Text} (hwhole : Text.IsWhole line) (t : Text) :
    ∃ k, next size true (line ++ t) =
      (block size (line ++ t)).orElse (Trial.retreat^[k] (next size true t)) := by
  obtain ⟨body, hbody, rfl⟩ := hwhole
  rw [List.append_assoc, List.singleton_append]
  cases body with
  | nil => exact ⟨0, next_cons size true '\n' t⟩
  | cons c body =>
    rw [List.mem_cons, not_or] at hbody
    refine ⟨2 * body.length + 2, ?_⟩
    rw [List.cons_append, next_cons, beq_eq_false_iff_ne.mpr (Ne.symm hbody.1),
      next_inside size hbody.2, next_lf, ← Function.iterate_add_apply, if_pos rfl]

/-- From the start of the last line a search goes on to the end of the text. -/
theorem next_isLast {line : Text} (hlast : Text.IsLast line) :
    ∃ k, next size true line = (block size line).orElse (Trial.retreat^[k] fail) := by
  obtain ⟨hne, hlf⟩ := hlast
  cases line with
  | nil => exact absurd rfl hne
  | cons c body =>
    rw [List.mem_cons, not_or] at hlf
    have hend : next size false [] = Trial.retreat^[2] fail := by
      rw [next_nil, if_neg Bool.false_ne_true, orElse_retreat_fail]
      rfl
    have hinside := next_inside size hlf.2 []
    rw [List.append_nil, hend, ← Function.iterate_add_apply] at hinside
    refine ⟨2 * body.length + 2, ?_⟩
    rw [next_cons, beq_eq_false_iff_ne.mpr (Ne.symm hlf.1), hinside, if_pos rfl]

/-- A search finds only what is found at the start of a line. -/
theorem findsOnly_next {ls : List Text} {r : Option Hit} (hls : Text.lines ls.flatten = ls)
    (h : ∀ before later, ls = before ++ later → FindsOnly (block size later.flatten) r) :
    FindsOnly (next size true ls.flatten) r := by
  induction ls with
  | nil =>
    rw [List.flatten_nil, next_nil, if_pos rfl]
    exact (h [] [] rfl).orElse (findsOnly_fail r)
  | cons line ls ih =>
    have hhere := h [] (line :: ls) rfl
    obtain ⟨hrest, hwhole | ⟨hlast, rfl⟩⟩ := Text.lines_eq_cons hls
    · obtain ⟨k, hk⟩ := next_isWhole size hwhole ls.flatten
      have hlater := ih hrest fun before later hcut => h (line :: before) later (by rw [hcut]; rfl)
      rw [List.flatten_cons] at hhere ⊢
      rw [hk]
      exact hhere.orElse (hlater.iterate_retreat k)
    · obtain ⟨k, hk⟩ := next_isLast size hlast
      rw [List.flatten_cons, List.flatten_nil, List.append_nil] at hhere ⊢
      rw [hk]
      exact hhere.orElse ((findsOnly_fail r).iterate_retreat k)

/-- A search finds what is found at the start of a line, if the lines before it lead to nothing
    else. -/
theorem finds_next {before later : List Text} {hit : Hit}
    (hls : Text.lines (before ++ later).flatten = before ++ later) (hne : later ≠ [])
    (hbefore : ∀ pre line post, before = pre ++ line :: post →
      FindsOnly (block size (line :: (post ++ later)).flatten) (some hit))
    (hlater : Finds (block size later.flatten) hit) :
    Finds (next size true (before ++ later).flatten) hit := by
  induction before with
  | nil =>
    obtain ⟨b, hb⟩ := exists_next_eq_orElse size later.flatten
    rw [List.nil_append, hb]
    exact hlater.orElse_left b
  | cons line before ih =>
    have hhere := hbefore [] line before rfl
    obtain ⟨hrest, hwhole | ⟨-, hnil⟩⟩ := Text.lines_eq_cons hls
    · obtain ⟨k, hk⟩ := next_isWhole size hwhole (before ++ later).flatten
      have hnext := ih hrest fun pre l post hcut =>
        hbefore (line :: pre) l post (by rw [hcut]; rfl)
      rw [List.flatten_cons] at hhere
      rw [List.cons_append, List.flatten_cons, hk]
      exact Finds.orElse_right hhere (hnext.iterate_retreat k)
    · exact absurd (List.append_eq_nil_iff.mp hnil).2 hne

/-! ### Without a pair -/

variable {size}

/-- What stands behind lines that are passed over is made of the lines behind them. -/
theorem eq_append_lines_of_passes {ls before : List Text} {u : Text}
    (hls : Text.lines ls.flatten = ls) (ht : ls.flatten = before.flatten ++ u)
    (hbefore : ∀ line ∈ before, Passes line) : ls = before ++ Text.lines u := by
  rw [← Text.lines_flatten_append (fun line hline => (hbefore line hline).1) u, ← ht, hls]

theorem findsOnly_fence_of_unpaired (c : Capture) {ls : List Text}
    (hls : Text.lines ls.flatten = ls) (h : Unpaired ls []) :
    FindsOnly (fence c ls.flatten) none := by
  refine findsOnly_fence c hls ?_
  rintro line later rfl f hf l hl
  exact (unpaired_cons.mp h).1 f hf l (by simpa using hl)

theorem findsOnly_block_of_unpaired {ls : List Text} (hls : Text.lines ls.flatten = ls)
    (h : Unpaired ls []) : FindsOnly (block size ls.flatten) none := by
  refine FindsOnly.orElse (findsOnly_marker ?_) (findsOnly_fence_of_unpaired .absent hls h)
  intro c line bs u ht hline _ _ hbs
  have hcut : ls = (line :: bs) ++ Text.lines u :=
    eq_append_lines_of_passes hls (by rw [ht]; simp)
      (List.forall_mem_cons.mpr ⟨hline, fun b hb => passes_of_isBlank (hbs b hb)⟩)
  rw [← Text.flatten_lines u]
  exact findsOnly_fence_of_unpaired c (Text.lines_of_lines_eq_append (hls.trans hcut))
    (hcut ▸ h).of_append

/-- **Without a pair** a search finds nothing. -/
theorem findsOnly_next_of_unpaired {ls : List Text} (hls : Text.lines ls.flatten = ls)
    (h : Unpaired ls []) : FindsOnly (next size true ls.flatten) none := by
  refine findsOnly_next size hls ?_
  rintro before later rfl
  exact findsOnly_block_of_unpaired (Text.lines_of_lines_eq_append hls) h.of_append

/-! ### The first pair -/

/-- What a search finds at a pair in front of other lines, with the marker `m`. -/
def hitOf (m : Marker) (p : Pair) (later : List Text) : Hit :=
  ⟨⟨m, p.fence, p.inner.flatten⟩, lineFeed p.closer ++ later.flatten⟩

section

variable {p : Pair} {before later : List Text}
  (hls : Text.lines (before ++ p.opener :: (p.inner ++ p.closer :: later)).flatten =
    before ++ p.opener :: (p.inner ++ p.closer :: later))
  (skipped : Unpaired before (p.opener :: (p.inner ++ p.closer :: later)))
  (opens : p.fence.Opens p.opener) (inside : ∀ line ∈ p.inner, ¬ Closes p.fence.indent line)
  (closes : Closes p.fence.indent p.closer)

include hls opens

section
include inside closes

theorem finds_fence_of_pair (c : Capture) :
    Finds (fence c (p.opener :: (p.inner ++ p.closer :: later)).flatten)
      (hitOf c.marker p later) :=
  finds_fence c opens (Text.lines_eq_cons (Text.lines_of_lines_eq_append hls)).1 inside closes

end

include skipped

/-- Where the lines that are passed over are not all those before the pair, there is no fence that is
    closed. -/
theorem findsOnly_fence_or {passed : List Text} {u : Text}
    (ht : (before ++ p.opener :: (p.inner ++ p.closer :: later)).flatten = passed.flatten ++ u)
    (hpassed : ∀ line ∈ passed, Passes line) :
    (before = passed ∧ u = (p.opener :: (p.inner ++ p.closer :: later)).flatten) ∨
      ∀ c, FindsOnly (fence c u) none := by
  have hcut := eq_append_lines_of_passes hls ht hpassed
  have hu : Text.lines (Text.lines u).flatten = Text.lines u := by rw [Text.flatten_lines]
  rw [← Text.flatten_lines u]
  cases hlines : Text.lines u with
  | nil => exact .inr fun c => findsOnly_fence c rfl (by simp)
  | cons line post =>
    rw [hlines] at hcut hu
    rcases append_cons_eq_cases hcut with ⟨hb, rfl, rfl⟩ | ⟨c, rfl, -⟩ | ⟨c, hc, rfl⟩
    · exact .inl ⟨hb, rfl⟩
    · -- The opening fence is not among the lines that are passed over.
      exact absurd opens.beginsFence (hpassed p.opener (by simp)).2
    · refine .inr fun k => findsOnly_fence k hu ?_
      rintro l ls hl f hf l' hl'
      obtain ⟨rfl, rfl⟩ := List.cons.inj hl
      exact skipped.not_closes hc hf hl'

include inside closes

/-- Behind a marker nothing but the first pair is found.  If that is right below the first line, then
    the marker is captured from there. -/
theorem findsOnly_marker_of_pair {m : Marker}
    (h : ∀ line bs, before = line :: bs → ¬ IsBlank line → (∀ b ∈ bs, IsBlank b) →
      Marker.ofLine line = .absent ∧ m = .absent) :
    FindsOnly (marker size fence (before ++ p.opener :: (p.inner ++ p.closer :: later)).flatten)
      (some (hitOf m p later)) := by
  refine findsOnly_marker ?_
  intro c line bs u ht hline hblank hc hbs
  have hcut : (before ++ p.opener :: (p.inner ++ p.closer :: later)).flatten =
      (line :: bs).flatten ++ u := by
    rw [ht]
    simp
  have hpassed : ∀ l ∈ line :: bs, Passes l :=
    List.forall_mem_cons.mpr ⟨hline, fun b hb => passes_of_isBlank (hbs b hb)⟩
  rcases findsOnly_fence_or hls skipped opens hcut hpassed with ⟨hbefore, rfl⟩ | hnone
  · obtain ⟨habsent, rfl⟩ := h line bs hbefore (by rw [← isBlankLine_iff, hblank]; simp) hbs
    rw [habsent] at hc
    have hfinds := finds_fence_of_pair hls opens inside closes c
    rw [hc.resolve_right (by simp)] at hfinds
    exact hfinds.findsOnly
  · exact (hnone c).of_none _

/-- Above the line that counts nothing but the first pair is found. -/
theorem findsOnly_block_of_pair {m : Marker} (hne : before ≠ [])
    (h : ∀ line bs, before = line :: bs → ¬ IsBlank line → (∀ b ∈ bs, IsBlank b) →
      Marker.ofLine line = .absent ∧ m = .absent) :
    FindsOnly (block size (before ++ p.opener :: (p.inner ++ p.closer :: later)).flatten)
      (some (hitOf m p later)) := by
  refine FindsOnly.orElse (findsOnly_marker_of_pair hls skipped opens inside closes h) ?_
  have hnone := (findsOnly_fence_or hls skipped opens (List.nil_append _).symm (by simp)).resolve_left
    fun hnil => hne hnil.1
  exact (hnone .absent).of_none _

/-- At a marker the first pair is found. -/
theorem finds_block_of_marked {line : Text} {bs : List Text} (hbefore : before = line :: bs)
    (hbs : ∀ b ∈ bs, IsBlank b) (hsome : Marker.ofLine line ≠ .absent) (hsize : bs.length ≤ size) :
    Finds (block size (before ++ p.opener :: (p.inner ++ p.closer :: later)).flatten)
      (hitOf (Marker.ofLine line) p later) := by
  subst hbefore
  have hcut : (line :: bs ++ p.opener :: (p.inner ++ p.closer :: later)).flatten =
      line ++ (bs.flatten ++ (p.opener :: (p.inner ++ p.closer :: later)).flatten) := by simp
  have hline : Text.IsWhole line := (Text.lines_eq_append_cons hls).1 line (by simp)
  have hopener : ∀ b u, (p.opener :: (p.inner ++ p.closer :: later)).flatten = b ++ u →
      ¬ IsBlank b := by
    intro b u hu hb
    have hsame : p.opener ++ (p.inner ++ p.closer :: later).flatten = b ++ u := hu
    obtain ⟨rfl, -⟩ := opens.isWhole.append_inj (passes_of_isBlank hb).1 hsame
    exact (passes_of_isBlank hb).2 opens.beginsFence
  have hfence : ∀ c : Capture, c.marker = Marker.ofLine line →
      Finds (fence c (p.opener :: (p.inner ++ p.closer :: later)).flatten)
        (hitOf (Marker.ofLine line) p later) :=
    fun c hc => hc ▸ finds_fence_of_pair hls opens inside closes c
  rw [block, hcut]
  refine (finds_marker hbs hsize hopener hline hsome hfence ?_).orElse_left _
  -- Fewer blank lines may be passed over later, but then there is no fence behind them.
  intro c ls u hu hblank hc
  obtain ⟨said, -, hkey, -⟩ := Marker.exists_said_of_ofLine hsome
  have hpassed : ∀ l ∈ line :: ls, Passes l :=
    List.forall_mem_cons.mpr ⟨passes_of_afterKeyword? hline hkey,
      fun l hl => passes_of_isBlank (hblank l hl)⟩
  have hsplit : (line :: bs ++ p.opener :: (p.inner ++ p.closer :: later)).flatten =
      (line :: ls).flatten ++ u := by
    rw [hcut, hu]
    simp
  rcases findsOnly_fence_or hls skipped opens hsplit hpassed with ⟨-, rfl⟩ | hnone
  · exact (hfence c hc).findsOnly
  · exact (hnone c).of_none _

/-- From the top of the lines the first pair is found where it is found from one of them on, if no
    marker stands above that. -/
theorem finds_next_of_block {above below : List Text} {m : Marker} (hbefore : before = above ++ below)
    (habove : ∀ pre line post, above = pre ++ line :: post → ¬ IsBlank line →
      (∀ b ∈ post ++ below, IsBlank b) → Marker.ofLine line = .absent ∧ m = .absent)
    (hblock : Finds (block size (below ++ p.opener :: (p.inner ++ p.closer :: later)).flatten)
      (hitOf m p later)) :
    Finds (next size true (before ++ p.opener :: (p.inner ++ p.closer :: later)).flatten)
      (hitOf m p later) := by
  subst hbefore
  rw [List.append_assoc] at hls ⊢
  refine finds_next size hls (by simp) ?_ hblock
  rintro pre line post rfl
  have hcut : line :: (post ++ (below ++ p.opener :: (p.inner ++ p.closer :: later))) =
      line :: (post ++ below) ++ p.opener :: (p.inner ++ p.closer :: later) := by simp
  rw [List.append_assoc, List.cons_append] at skipped
  rw [List.append_assoc, List.cons_append, hcut] at hls
  rw [hcut]
  refine findsOnly_block_of_pair (Text.lines_of_lines_eq_append hls) skipped.of_append opens inside
    closes (List.cons_ne_nil _ _) ?_
  rintro l bs hl hline hbs
  obtain ⟨rfl, rfl⟩ := List.cons.inj hl
  exact habove pre line post rfl hline hbs

/-- **With a pair** a search finds the first one, with the marker that is in force there. -/
theorem finds_next_of_pair (hsize : before.length ≤ size) :
    Finds (next size true (before ++ p.opener :: (p.inner ++ p.closer :: later)).flatten)
      (hitOf (before.foldl Marker.across .absent) p later) := by
  by_cases hmarked : ∃ line, NearestAbove before line ∧ Marker.ofLine line ≠ .absent
  · obtain ⟨line, hnearest, hsome⟩ := hmarked
    rw [Marker.foldl_across hnearest]
    obtain ⟨above, blanks, rfl, hline, hblanks⟩ := hnearest
    refine finds_next_of_block hls skipped opens inside closes rfl ?_ ?_
    · rintro pre l post - - hblank
      exact absurd (hblank line (by simp)) hline
    · rw [List.append_assoc] at hls
      simp only [List.length_append, List.length_cons] at hsize
      exact finds_block_of_marked (Text.lines_of_lines_eq_append hls) skipped.of_append opens inside
        closes rfl hblanks hsome (by omega)
  · have habsent : ∀ line, NearestAbove before line → Marker.ofLine line = .absent := by
      intro line hline
      by_contra hsome
      exact hmarked ⟨line, hline, hsome⟩
    have hforce : before.foldl Marker.across .absent = .absent := by
      rcases exists_nearestAbove_or before with ⟨line, hline⟩ | hblank
      · rw [Marker.foldl_across hline, habsent line hline]
      · exact Marker.foldl_across_blank hblank _
    rw [hforce]
    refine finds_next_of_block hls skipped opens inside closes (List.append_nil before).symm ?_ ?_
    · rintro pre line post rfl hline hpost
      rw [List.append_nil] at hpost
      exact ⟨habsent line ⟨pre, post, rfl, hline, hpost⟩, rfl⟩
    · refine Finds.orElse_right ?_ (finds_fence_of_pair hls opens inside closes .absent)
      rw [← List.nil_append (p.opener :: _)]
      exact findsOnly_marker_of_pair (Text.lines_of_lines_eq_append hls) (unpaired_nil _) opens inside
        closes (by simp)

end

/-! ### One search after the other -/

/-- The searches of a text find these blocks, one after the other; the last one fails. -/
inductive Visits (size : Nat) : Bool → Text → List Hit → Prop
  /-- There is no further block. -/
  | stop {starts : Bool} {t : Text} {left : Nat}
      (failed : next size starts t limit = .failed left) : Visits size starts t []
  /-- A block is found, and the next search starts behind it. -/
  | block {starts : Bool} {t : Text} {hit : Hit} {hits : List Hit}
      (found : next size starts t limit = .found hit) (more : Visits size false hit.rest hits) :
      Visits size starts t (hit :: hits)

/-- What is found at pairs in front of other lines, with the markers in force there. -/
def hits : List Pair → List Text → List Hit
  | [], _ => []
  | p :: ps, tail =>
    hitOf (p.before.foldl Marker.across .absent) p (ps.flatMap Pair.lines ++ tail) :: hits ps tail

theorem toSnippet_hits (ps : List Pair) (tail : List Text) :
    (hits ps tail).map (fun hit => hit.toSnippet) = ps.map Pair.snippet := by
  induction ps with
  | nil => rfl
  | cons p ps ih =>
    rw [hits, List.map_cons, List.map_cons, ih]
    rfl

theorem visits_nil {n : Nat} {starts : Bool} {t : Text} (h : FindsOnly (next size starts t) none)
    (hgives : givesUpFrom size (n + 1) starts t = false) : Visits size starts t [] := by
  rw [givesUpFrom] at hgives
  split at hgives
  · next hit hhit => cases h limit hit hhit
  · next left hleft => exact .stop hleft
  · cases hgives

theorem visits_cons {n : Nat} {starts : Bool} {t : Text} {hit : Hit} {hits : List Hit}
    (h : Finds (next size starts t) hit) (hgives : givesUpFrom size (n + 1) starts t = false)
    (hmore : givesUpFrom size n false hit.rest = false → Visits size false hit.rest hits) :
    Visits size starts t (hit :: hits) := by
  rw [givesUpFrom] at hgives
  rcases h limit with hex | hfound
  · rw [hex] at hgives
    cases hgives
  · rw [hfound] at hgives
    exact .block hfound (hmore hgives)

/-- Where a search starts so as to see these lines next: at the top of them, or in front of the line
    feed or the end of the text that a closing fence ends with. -/
inductive Faces (ls : List Text) : Bool → Text → Prop
  | top : Faces ls true ls.flatten
  | behind {closer : Text} (h : Text.IsWhole closer ∨ Text.IsLast closer ∧ ls = []) :
      Faces ls false (lineFeed closer ++ ls.flatten)

theorem Faces.exists_next_eq (size : Nat) {ls : List Text} {starts : Bool} {t : Text}
    (h : Faces ls starts t) :
    ∃ k, next size starts t = Trial.retreat^[k] (next size true ls.flatten) ∨
      ls = [] ∧ next size starts t = Trial.retreat^[k] fail := by
  cases h with
  | top => exact ⟨0, .inl rfl⟩
  | behind h =>
    refine ⟨2, ?_⟩
    rcases h with hwhole | ⟨hlast, rfl⟩
    · left
      rw [lineFeed_isWhole hwhole]
      exact next_lf size ls.flatten
    · right
      rw [lineFeed_isLast hlast, List.nil_append, List.flatten_nil, next_nil,
        if_neg Bool.false_ne_true, orElse_retreat_fail]
      exact ⟨rfl, rfl⟩

theorem Faces.findsOnly {ls : List Text} {starts : Bool} {t : Text} {r : Option Hit}
    (h : Faces ls starts t) (hnext : FindsOnly (next size true ls.flatten) r) :
    FindsOnly (next size starts t) r := by
  obtain ⟨k, hk | ⟨-, hk⟩⟩ := h.exists_next_eq size
  · rw [hk]
    exact hnext.iterate_retreat k
  · rw [hk]
    exact (findsOnly_fail r).iterate_retreat k

theorem Faces.finds {ls : List Text} {starts : Bool} {t : Text} {hit : Hit} (h : Faces ls starts t)
    (hne : ls ≠ []) (hnext : Finds (next size true ls.flatten) hit) :
    Finds (next size starts t) hit := by
  obtain ⟨k, hk | ⟨hnil, -⟩⟩ := h.exists_next_eq size
  · rw [hk]
    exact hnext.iterate_retreat k
  · exact absurd hnil hne

theorem visits_of_faces {ls tail : List Text} {ps : List Pair} (h : Greedy ls ps tail)
    (hls : Text.lines ls.flatten = ls) (hsize : ls.length ≤ size) {n : Nat} (hn : ps.length < n)
    {starts : Bool} {t : Text} (hfaces : Faces ls starts t)
    (hgives : givesUpFrom size n starts t = false) : Visits size starts t (hits ps tail) := by
  induction h generalizing n starts t with
  | done unpaired =>
    obtain ⟨n, rfl⟩ := Nat.exists_eq_succ_of_ne_zero (Nat.ne_of_gt (Nat.zero_lt_of_lt hn))
    exact visits_nil (hfaces.findsOnly (findsOnly_next_of_unpaired hls unpaired)) hgives
  | @pair p later tail ps skipped opens inside closes rest ih =>
    obtain ⟨n, rfl⟩ := Nat.exists_eq_succ_of_ne_zero (Nat.ne_of_gt (Nat.zero_lt_of_lt hn))
    simp only [List.length_append, List.length_cons] at hsize
    have hnext : Finds (next size true _) _ :=
      finds_next_of_pair hls skipped opens inside closes (by omega)
    have hcut : p.before ++ p.opener :: (p.inner ++ p.closer :: later) =
        (p.before ++ p.opener :: p.inner) ++ p.closer :: later := by simp
    obtain ⟨hlater, hcloser⟩ :=
      Text.lines_eq_cons (Text.lines_of_lines_eq_append (hls.trans hcut))
    rw [hits, ← rest.lines_eq]
    refine visits_cons (hfaces.finds (by simp) hnext) hgives ?_
    exact ih hlater (by omega) (Nat.lt_of_succ_lt_succ hn) (.behind hcloser)

/-- **The searches find the pairs.**  If none of the searches of a text gives up, then each of them
    finds the next pair, with the marker that is in force there, and ends behind its closing fence,
    until there are no more pairs. -/
theorem visits_of_greedy {t : Text} (hscan : givesUp t = false) {ps : List Pair} {tail : List Text}
    (h : Greedy (Text.lines t) ps tail) : Visits t.length true t (hits ps tail) := by
  have hlines : Text.lines (Text.lines t).flatten = Text.lines t := by rw [Text.flatten_lines]
  have hlength : (Text.lines t).length ≤ t.length := Text.length_lines_le t
  have htop : Faces (Text.lines t) true (Text.lines t).flatten := .top
  rw [Text.flatten_lines] at htop
  exact visits_of_faces h hlines hlength (Nat.lt_succ_of_le (h.length_le.trans hlength)) htop hscan

end Search

end FenceSync
