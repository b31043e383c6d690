import FenceSync.Delivery
import FenceSync.Proofs.Running

namespace FenceSync

/-!
# Runs, document by document

A run over documents is a sequence of equal steps that ends with the first error.

* `deliverOne` is the step: one document is embedded, and its result is disposed of.
* `runFrom_deliverFrom_append` cuts a run in two, and `exists_failing_source` finds the document at
  which a run failed.
* `deliverFrom_rel` is the induction over a run for what a step does to the state, and
  `deliverFrom_totals` says that totals only grow.
* `runFrom_deliverAll` says what a run adds to its steps without a target file, and
  `runFrom_deliverAll_file` with one.
-/

/-- Process one document after others with the given totals; also its result. -/
def deliverOne {m : Type → Type} [Monad m] (host : Host m) (o : Options) (t : Totals)
    (source : Path) : ExceptT DeliveryError m (Totals × Text) := do
  if t.documents ≠ 0 then logProgress (m := m) host.toSurroundings "---"
  let (content, report) ← embedSource host.toSurroundings o source
  let wasWritten ← deliver host o source content report
  return (t.add report wasWritten, content)

theorem deliverFrom_cons {m : Type → Type} [Monad m] [LawfulMonad m] (host : Host m) (o : Options)
    (t : Totals) (source : Path) (sources : List Path) :
    deliverFrom host o t (source :: sources) = do
      let x ← deliverOne host o t source
      let y ← deliverFrom host o x.1 sources
      return (y.1, x.2 ++ y.2) := by
  rw [deliverFrom, deliverOne]
  split <;> simp

variable {σ : Type} {host : Host (StateM σ)} {o : Options}

/-! ### One step -/

/-- The state behind the message that sets a document off from those before it. -/
def separated (host : Host (StateM σ)) (t : Totals) (s : σ) : σ :=
  if t.documents ≠ 0 then ((logProgress host.toSurroundings "---").run s).2 else s

/-- **A step** embeds its document, disposes of the result, and counts both. -/
theorem runFrom_deliverOne (t : Totals) (source : Path) (s : σ) :
    runFrom (deliverOne host o t source) s =
      match runFrom (embedSource host.toSurroundings o source) (separated host t s) with
      | (.error e, s₁) => (.error e, s₁)
      | (.ok (content, report), s₁) =>
        match runFrom (deliver host o source content report) s₁ with
        | (.error e, s₂) => (.error e, s₂)
        | (.ok wasWritten, s₂) => (.ok (t.add report wasWritten, content), s₂) := by
  have hrest : ∀ s₀, runFrom (do
      let (content, report) ← embedSource host.toSurroundings o source
      let wasWritten ← deliver host o source content report
      return (t.add report wasWritten, content)) s₀ =
        match runFrom (embedSource host.toSurroundings o source) s₀ with
        | (.error e, s₁) => (.error e, s₁)
        | (.ok (content, report), s₁) =>
          match runFrom (deliver host o source content report) s₁ with
          | (.error e, s₂) => (.error e, s₂)
          | (.ok wasWritten, s₂) => (.ok (t.add report wasWritten, content), s₂) := by
    intro s₀
    rw [runFrom_bind]
    rcases runFrom (embedSource host.toSurroundings o source) s₀ with ⟨e | ⟨content, report⟩, s₁⟩
    · rfl
    · simp only
      rw [runFrom_bind]
      rcases runFrom (deliver host o source content report) s₁ with ⟨e | wasWritten, s₂⟩ <;> rfl
  rw [deliverOne, separated]
  split
  · rw [runFrom_bind, runFrom_lift]
    exact hrest _
  · exact hrest s

/-! ### Steps of a run -/

/-- The result of the rest of a run behind the given text. -/
def behind (content : Text) (r : Except DeliveryError (Totals × Text) × σ) :
    Except DeliveryError (Totals × Text) × σ :=
  (r.1.map fun y => (y.1, content ++ y.2), r.2)

@[simp] theorem behind_error (content : Text) (e : DeliveryError) (s : σ) :
    behind content (.error e, s) = (.error e, s) := rfl

@[simp] theorem behind_ok (content rest : Text) (t : Totals) (s : σ) :
    behind content (.ok (t, rest), s) = (.ok (t, content ++ rest), s) := rfl

@[simp] theorem behind_snd (content : Text) (r : Except DeliveryError (Totals × Text) × σ) :
    (behind content r).2 = r.2 := rfl

theorem behind_append (a b : Text) (r : Except DeliveryError (Totals × Text) × σ) :
    behind a (behind b r) = behind (a ++ b) r := by
  rcases r with ⟨_ | ⟨t, rest⟩, s⟩ <;> simp

theorem behind_nil (r : Except DeliveryError (Totals × Text) × σ) : behind [] r = r := by
  rcases r with ⟨_ | ⟨t, rest⟩, s⟩ <;> rfl

/-- A run goes on behind its first document, unless that one fails. -/
theorem runFrom_deliverFrom_cons (t : Totals) (source : Path) (sources : List Path) (s : σ) :
    runFrom (deliverFrom host o t (source :: sources)) s =
      match runFrom (deliverOne host o t source) s with
      | (.ok (t', content), s') => behind content (runFrom (deliverFrom host o t' sources) s')
      | (.error e, s') => (.error e, s') := by
  rw [deliverFrom_cons, runFrom_bind]
  rcases runFrom (deliverOne host o t source) s with ⟨e | ⟨t', content⟩, s'⟩
  · rfl
  · simp only
    rw [runFrom_bind]
    rcases runFrom (deliverFrom host o t' sources) s' with ⟨e | ⟨t'', rest⟩, s''⟩ <;> rfl

/-- **A run over two lists of documents** is a run over the first and then, unless that fails, one
    over the second. -/
theorem runFrom_deliverFrom_append (t : Totals) (pre post : List Path) (s : σ) :
    runFrom (deliverFrom host o t (pre ++ post)) s =
      match runFrom (deliverFrom host o t pre) s with
      | (.ok (t', content), s') => behind content (runFrom (deliverFrom host o t' post) s')
      | (.error e, s') => (.error e, s') := by
  induction pre generalizing t s with
  | nil =>
    rw [List.nil_append, deliverFrom, runFrom_pure]
    simp only
    rw [behind_nil]
  | cons source pre ih =>
    rw [List.cons_append, runFrom_deliverFrom_cons, runFrom_deliverFrom_cons]
    rcases runFrom (deliverOne host o t source) s with ⟨e | ⟨t', content⟩, s'⟩
    · rfl
    · simp only
      rw [ih]
      rcases runFrom (deliverFrom host o t' pre) s' with ⟨e | ⟨t'', rest⟩, s''⟩
      · rfl
      · simp only [behind_ok]
        rw [behind_append]

/-- A run that succeeds has succeeded with its first documents, and then with the others. -/
theorem deliverFrom_append_eq_ok {t t' : Totals} {pre post : List Path} {results : Text}
    {s s' : σ} (h : runFrom (deliverFrom host o t (pre ++ post)) s = (.ok (t', results), s')) :
    ∃ t₁ first s₁ rest, runFrom (deliverFrom host o t pre) s = (.ok (t₁, first), s₁) ∧
      runFrom (deliverFrom host o t₁ post) s₁ = (.ok (t', rest), s') := by
  rw [runFrom_deliverFrom_append] at h
  rcases hpre : runFrom (deliverFrom host o t pre) s with ⟨e | ⟨t₁, first⟩, s₁⟩
  · rw [hpre] at h
    cases h
  · rw [hpre] at h
    rcases hpost : runFrom (deliverFrom host o t₁ post) s₁ with ⟨e | ⟨t₂, rest⟩, s₂⟩
    · simp only [hpost, behind_error] at h
      cases h
    · simp only [hpost, behind_ok] at h
      cases h
      exact ⟨t₁, first, s₁, rest, rfl, hpost⟩

theorem deliverFrom_singleton_eq_ok {t t' : Totals} {source : Path} {results : Text} {s s' : σ}
    (h : runFrom (deliverFrom host o t [source]) s = (.ok (t', results), s')) :
    ∃ content, runFrom (deliverOne host o t source) s = (.ok (t', content), s') := by
  rw [runFrom_deliverFrom_cons] at h
  rcases hone : runFrom (deliverOne host o t source) s with ⟨e | ⟨t₁, content⟩, s₁⟩
  · rw [hone] at h
    cases h
  · rw [hone] at h
    cases h
    exact ⟨content, rfl⟩

/-- A run that fails does so at one of its documents, and those before it were processed. -/
theorem exists_failing_source {t : Totals} {sources : List Path} {s s' : σ} {e : DeliveryError}
    (h : runFrom (deliverFrom host o t sources) s = (.error e, s')) :
    ∃ pre source post t' content s₁, sources = pre ++ source :: post ∧
      runFrom (deliverFrom host o t pre) s = (.ok (t', content), s₁) ∧
      runFrom (deliverOne host o t' source) s₁ = (.error e, s') := by
  induction sources generalizing t s with
  | nil => cases h
  | cons source sources ih =>
    rw [runFrom_deliverFrom_cons] at h
    rcases hone : runFrom (deliverOne host o t source) s with ⟨e' | ⟨t', content⟩, s₁⟩
    · rw [hone] at h
      cases h
      exact ⟨[], source, sources, t, [], s, rfl, rfl, hone⟩
    · rw [hone] at h
      rcases hrest : runFrom (deliverFrom host o t' sources) s₁ with ⟨e' | ⟨t'', rest⟩, s₂⟩
      · simp only [hrest, behind_error] at h
        cases h
        obtain ⟨pre, source', post, t'', rest, s₃, rfl, hpre, hfail⟩ := ih hrest
        refine ⟨source :: pre, source', post, t'', content ++ rest, s₃, rfl, ?_, hfail⟩
        rw [runFrom_deliverFrom_cons, hone]
        simp only
        rw [hpre, behind_ok]
      · simp only [hrest, behind_ok] at h
        cases h

/-- **What every step does to the state, a run does**, be it successful or not. -/
theorem deliverFrom_rel {R : σ → σ → Prop} (hrefl : ∀ s, R s s)
    (htrans : ∀ s₁ s₂ s₃, R s₁ s₂ → R s₂ s₃ → R s₁ s₃) {sources : List Path}
    (hstep : ∀ source ∈ sources, ∀ t s, R s (runFrom (deliverOne host o t source) s).2)
    (t : Totals) (s : σ) : R s (runFrom (deliverFrom host o t sources) s).2 := by
  induction sources generalizing t s with
  | nil => exact hrefl s
  | cons source sources ih =>
    have hone := hstep source (by simp) t s
    have hrest := fun t' s' => ih (fun p hp => hstep p (List.mem_cons_of_mem _ hp)) t' s'
    rw [runFrom_deliverFrom_cons]
    rcases hrun : runFrom (deliverOne host o t source) s with ⟨e | ⟨t', content⟩, s'⟩
    · rw [hrun] at hone
      exact hone
    · rw [hrun] at hone
      exact htrans _ _ _ hone (hrest t' s')

/-! ### Totals -/

/-- Totals have not gone down. -/
def Totals.le (t t' : Totals) : Prop :=
  t.documents ≤ t'.documents ∧ t.changed ≤ t'.changed ∧ t.written ≤ t'.written

theorem Totals.le_add (t : Totals) (r : SourceReport) (wasWritten : Bool) :
    t.le (t.add r wasWritten) :=
  ⟨Nat.le_add_right _ _, Nat.le_add_right _ _, Nat.le_add_right _ _⟩

theorem deliverOne_totals {t t' : Totals} {source : Path} {content : Text} {s s' : σ}
    (h : runFrom (deliverOne host o t source) s = (.ok (t', content), s')) : t.le t' := by
  rw [runFrom_deliverOne] at h
  split at h
  · cases h
  · split at h
    · cases h
    · cases h
      exact t.le_add _ _

theorem deliverFrom_totals {t t' : Totals} {sources : List Path} {content : Text} {s s' : σ}
    (h : runFrom (deliverFrom host o t sources) s = (.ok (t', content), s')) : t.le t' := by
  induction sources generalizing t content s with
  | nil =>
    cases h
    exact ⟨le_refl _, le_refl _, le_refl _⟩
  | cons source sources ih =>
    rw [runFrom_deliverFrom_cons] at h
    rcases hone : runFrom (deliverOne host o t source) s with ⟨e | ⟨t₁, first⟩, s₁⟩
    · rw [hone] at h
      cases h
    · rw [hone] at h
      rcases hrest : runFrom (deliverFrom host o t₁ sources) s₁ with ⟨e | ⟨t₂, rest⟩, s₂⟩
      · simp only [hrest, behind_error] at h
        cases h
      · simp only [hrest, behind_ok] at h
        cases h
        have hadd := deliverOne_totals hone
        have hle := ih hrest
        exact ⟨hadd.1.trans hle.1, hadd.2.1.trans hle.2.1, hadd.2.2.trans hle.2.2⟩

/-- A run that succeeds has counted its first document. -/
theorem deliverFrom_cons_totals {t t₁ t' : Totals} {source : Path} {sources : List Path}
    {first content results : Text} {s s₁ s' : σ}
    (hone : runFrom (deliverOne host o t source) s = (.ok (t₁, content), s₁))
    (h : behind first (runFrom (deliverFrom host o t (source :: sources)) s) =
      (.ok (t', results), s')) : t₁.le t' := by
  rw [runFrom_deliverFrom_cons, hone] at h
  simp only [behind_append] at h
  rcases hrest : runFrom (deliverFrom host o t₁ sources) s₁ with ⟨e | ⟨t₂, rest⟩, s₂⟩
  · rw [hrest, behind_error] at h
    cases h
  · rw [hrest, behind_ok] at h
    cases h
    exact deliverFrom_totals hrest

/-! ### Whole runs -/

/-- Without a target file a run consists of its steps. -/
theorem runFrom_deliverAll (hmode : ∀ target, o.mode ≠ .file target) (sources : List Path) (s : σ) :
    runFrom (deliverAll host o sources) s =
      ((runFrom (deliverFrom host o .zero sources) s).1.map Prod.fst,
        (runFrom (deliverFrom host o .zero sources) s).2) := by
  rw [deliverAll, runFrom_bind]
  rcases runFrom (deliverFrom host o .zero sources) s with ⟨e | ⟨t, results⟩, s'⟩
  · rfl
  · cases hm : o.mode with
    | file target => exact absurd hm (hmode target)
    | _ => rfl

/-- With a target file the results of all documents are written to it in the end. -/
theorem runFrom_deliverAll_file {target : Path} (hmode : o.mode = .file target)
    (sources : List Path) (s : σ) :
    runFrom (deliverAll host o sources) s =
      match runFrom (deliverFrom host o .zero sources) s with
      | (.error e, s') => (.error e, s')
      | (.ok (t, results), s') =>
        let path := o.workingDir.join target
        match runFrom (writeResult host path (path.shownFrom o.workingDir) results) s' with
        | (.error e, s'') => (.error e, s'')
        | (.ok _, s'') => (.ok { t with written := t.written + 1 }, s'') := by
  rw [deliverAll, runFrom_bind]
  rcases runFrom (deliverFrom host o .zero sources) s with ⟨e | ⟨t, results⟩, s'⟩
  · rfl
  · simp only [hmode]
    rw [runFrom_bind]
    rcases runFrom (writeResult host (o.workingDir.join target)
      ((o.workingDir.join target).shownFrom o.workingDir) results) s' with ⟨e | u, s''⟩ <;> rfl

end FenceSync
