import FenceSync.Proofs.Tally
import Mathlib.Logic.ExistsUnique

namespace FenceSync

/-!
# Lines and their newlines

Bytes, and characters alike, are lines with the newlines that end them, and what stands behind the
last line feed.

* `EndedLine` is a line with its newline, and `LineCut` are all lines together with the rest.
* `LineCut.content` puts them together and `LineCut.ofList` takes them apart; `content_ofList` and
  `ofList_content` say that each undoes the other.
* `LineCut.tallyFrom_content` says that newlines are counted by the lines that they end.
* `Bytes.tally_lineCut` is the full statement.
-/

/-- A line and the newline that ends it. -/
structure EndedLine {α : Type} (cr lf : α) where
  body : List α
  ending : Newline
  lf_notMem : lf ∉ body
  /-- A CR right before the line feed belongs to the newline. -/
  getLast?_ne : ending = .lf → body.getLast? ≠ some cr

/-- Lines with their newlines, and what stands behind the last one. -/
structure LineCut {α : Type} (cr lf : α) where
  lines : List (EndedLine cr lf)
  rest : List α
  lf_notMem_rest : lf ∉ rest

section
variable {α : Type} {cr lf : α}

/-- The line with its newline behind it. -/
def EndedLine.content (l : EndedLine cr lf) : List α := l.body ++ l.ending.marks cr lf

/-- Nothing but a newline. -/
def EndedLine.blank (nl : Newline) : EndedLine cr lf := ⟨[], nl, by simp, by simp⟩

namespace LineCut

/-- The lines and the rest, one behind the other. -/
def content (c : LineCut cr lf) : List α := c.lines.flatMap EndedLine.content ++ c.rest

/-- How many lines end with a newline of the kind. -/
def count (c : LineCut cr lf) (nl : Newline) : Nat := c.lines.countP (·.ending = nl)

/-- No line, and nothing behind. -/
def empty : LineCut cr lf := ⟨[], [], by simp⟩

theorem content_lines_cons (l : EndedLine cr lf) (ls : List (EndedLine cr lf)) {rest : List α}
    (h : lf ∉ rest) :
    (LineCut.mk (l :: ls) rest h).content = l.content ++ (LineCut.mk ls rest h).content := by
  rw [content, content, List.flatMap_cons, List.append_assoc]

end LineCut

end

section
variable {α : Type} [DecidableEq α] {cr lf : α}

/-! ### Taking lines apart -/

/-- Put one more element in front of a line.  A CR right before the line feed joins the newline. -/
def EndedLine.cons (x : α) (hx : x ≠ lf) (l : EndedLine cr lf) : EndedLine cr lf :=
  if h : x = cr ∧ l.body = [] ∧ l.ending = .lf then blank .crlf
  else
    { body := x :: l.body
      ending := l.ending
      lf_notMem := List.not_mem_cons_of_ne_of_not_mem (Ne.symm hx) l.lf_notMem
      getLast?_ne := by
        intro hending
        cases hbody : l.body with
        | nil => simpa [hbody, hending] using h
        | cons y ys => simpa [hbody] using l.getLast?_ne hending }

theorem EndedLine.content_cons (x : α) (hx : x ≠ lf) (l : EndedLine cr lf) :
    (l.cons x hx).content = x :: l.content := by
  rw [EndedLine.cons]
  split
  · next h =>
    obtain ⟨rfl, hbody, hending⟩ := h
    rw [content, content, hbody, hending]
    rfl
  · rfl

namespace LineCut

/-- Put one more element in front of all lines. -/
def cons (x : α) (c : LineCut cr lf) : LineCut cr lf :=
  if hx : x = lf then { c with lines := .blank .lf :: c.lines }
  else
    match c.lines with
    | [] => ⟨[], x :: c.rest, List.not_mem_cons_of_ne_of_not_mem (Ne.symm hx) c.lf_notMem_rest⟩
    | l :: ls => { c with lines := l.cons x hx :: ls }

/-- The lines of a list. -/
def ofList (cr lf : α) (xs : List α) : LineCut cr lf := xs.foldr cons empty

theorem content_cons (x : α) (c : LineCut cr lf) : (c.cons x).content = x :: c.content := by
  obtain ⟨lines, rest, h⟩ := c
  rw [cons]
  split
  · next hx =>
    subst hx
    rw [content_lines_cons]
    rfl
  · next hx =>
    cases lines with
    | nil => rfl
    | cons l ls => rw [content_lines_cons, content_lines_cons, EndedLine.content_cons]; rfl

/-- **Cutting loses nothing.** -/
theorem content_ofList (xs : List α) : (ofList cr lf xs).content = xs := by
  induction xs with
  | nil => rfl
  | cons x xs ih => rw [ofList, List.foldr_cons, content_cons, ← ofList, ih]

theorem foldr_cons_rest {rest : List α} (h : lf ∉ rest) :
    rest.foldr cons empty = (⟨[], rest, h⟩ : LineCut cr lf) := by
  induction rest with
  | nil => rfl
  | cons x rest ih =>
    rw [List.mem_cons, not_or] at h
    rw [List.foldr_cons, ih h.2, cons, dif_neg (Ne.symm h.1)]

/-- A newline becomes a blank line. -/
theorem foldr_cons_marks (hne : cr ≠ lf) (nl : Newline) (c : LineCut cr lf) :
    (nl.marks cr lf).foldr cons c = { c with lines := .blank nl :: c.lines } := by
  have hlf : cons lf c = { c with lines := .blank .lf :: c.lines } := dif_pos rfl
  cases nl with
  | lf => exact hlf
  | crlf =>
    have hjoin : (EndedLine.blank .lf).cons cr hne = (.blank .crlf : EndedLine cr lf) :=
      dif_pos ⟨rfl, rfl, rfl⟩
    rw [Newline.marks, List.foldr_cons, List.foldr_cons, List.foldr_nil, hlf, cons, dif_neg hne]
    simp only [hjoin]

/-- What stands in front of a newline becomes the body of the line that it ends. -/
theorem foldr_cons_body {l : EndedLine cr lf} {ls : List (EndedLine cr lf)} {rest : List α}
    (h : lf ∉ rest) :
    l.body.foldr cons ⟨.blank l.ending :: ls, rest, h⟩ = ⟨l :: ls, rest, h⟩ := by
  obtain ⟨body, ending, hlf, hcr⟩ := l
  induction body with
  | nil => rfl
  | cons x body ih =>
    have hx := List.ne_of_not_mem_cons hlf
    have hbody : ending = .lf → body.getLast? ≠ some cr := by
      intro hending
      cases body with
      | nil => simp
      | cons y ys => simpa using hcr hending
    -- No CR is left in front of a line feed, so that the element stays in the body.
    have hstay : ¬ (x = cr ∧ body = [] ∧ ending = .lf) := by
      rintro ⟨rfl, rfl, hending⟩
      exact hcr hending rfl
    simp only at ih ⊢
    rw [List.foldr_cons, ih (List.not_mem_of_not_mem_cons hlf) hbody, cons, dif_neg (Ne.symm hx)]
    simp only [EndedLine.cons, dif_neg hstay]

/-- **Lines are cut in one way only.** -/
theorem ofList_content (hne : cr ≠ lf) (c : LineCut cr lf) : ofList cr lf c.content = c := by
  obtain ⟨lines, rest, h⟩ := c
  rw [ofList]
  induction lines with
  | nil => exact foldr_cons_rest h
  | cons l ls ih =>
    rw [content_lines_cons, EndedLine.content, List.foldr_append, List.foldr_append, ih,
      foldr_cons_marks hne, foldr_cons_body]

end LineCut

/-! ### Counting -/

/-- One newline. -/
def Newline.tally : Newline → Tally
  | .lf => ⟨0, 1⟩
  | .crlf => ⟨1, 0⟩

/-- A line has the newline that ends it, and what follows is counted on its own. -/
theorem EndedLine.tallyFrom_append (hne : cr ≠ lf) (l : EndedLine cr lf) (xs : List α) :
    tallyFrom cr lf false (l.content ++ xs) = l.ending.tally + tallyFrom cr lf false xs := by
  obtain ⟨body, ending, hlf, hcr⟩ := l
  have hafter : decide (lf = cr) = false := decide_eq_false (Ne.symm hne)
  rw [content, List.append_assoc, FenceSync.tallyFrom_append, tallyFrom_of_notMem hlf,
    Tally.zero_add]
  cases ending with
  | lf =>
    rw [elim_getLast?_of_ne (hcr rfl), Newline.marks, List.singleton_append, tallyFrom_bare, hafter,
      Newline.tally, Tally.add_eq, Nat.zero_add, Nat.add_comm 1]
  | crlf =>
    rw [Newline.marks, List.cons_append, List.singleton_append, tallyFrom_of_ne hne,
      decide_eq_true rfl, tallyFrom_paired, hafter, Newline.tally, Tally.add_eq, Nat.zero_add,
      Nat.add_comm 1]

/-- **Newlines are counted by the lines that they end.** -/
theorem LineCut.tallyFrom_content (hne : cr ≠ lf) (c : LineCut cr lf) :
    tallyFrom cr lf false c.content = ⟨c.count .crlf, c.count .lf⟩ := by
  obtain ⟨lines, rest, h⟩ := c
  induction lines with
  | nil => exact tallyFrom_of_notMem h false
  | cons l ls ih =>
    rw [content_lines_cons, l.tallyFrom_append hne, ih, Tally.add_eq, count, count, count, count,
      List.countP_cons, List.countP_cons]
    cases l.ending <;> simp [Newline.tally, Nat.add_comm]

end

/-- **Newlines are counted by lines.**  Of lines that hold no line feed, each with the newline that
    ends it, and of a rest without a line feed, both kinds of newline are counted as they stand there,
    and CR LF prevails if more lines end with it than with LF.  All bytes are lines in this sense, in
    one way only, so that every line feed is counted once. -/
theorem Bytes.tally_lineCut :
    (∀ c : LineCut (0x0D : UInt8) 0x0A,
        tally c.content = ⟨c.count .crlf, c.count .lf⟩ ∧
          (newline c.content = .crlf ↔ c.count .lf < c.count .crlf)) ∧
      (∀ bs : Bytes, ∃! c : LineCut (0x0D : UInt8) 0x0A, c.content = bs) ∧
      ∀ bs : Bytes, (tally bs).crlf + (tally bs).lf = bs.count 0x0A := by
  have hne : (0x0D : UInt8) ≠ 0x0A := by decide
  refine ⟨fun c => ?_, fun bs => ?_, tallyFrom_add false⟩
  · have htally : tally c.content = ⟨c.count .crlf, c.count .lf⟩ := c.tallyFrom_content hne
    refine ⟨htally, ?_⟩
    rw [newline, htally, Tally.newline]
    simp
  · refine ⟨LineCut.ofList _ _ bs, LineCut.content_ofList bs, ?_⟩
    rintro c rfl
    exact (c.ofList_content hne).symm

/-- A lone CR stays in its line, and the one before CR LF as well. -/
example :
    let c := LineCut.ofList (0x0D : UInt8) 0x0A [0x61, 0x0D, 0x0D, 0x0A, 0x0A, 0x0D, 0x62]
    c.lines.map (fun l => (l.body, l.ending)) = [([0x61, 0x0D], .crlf), ([], .lf)] ∧
      c.rest = [0x0D, 0x62] := by decide

end FenceSync
