import FenceSync.Proofs.Reading
import FenceSync.Proofs.Searching

namespace FenceSync

/-!
# The blocks of a text

The blocks that are extracted from a text are its paired fences, each at its place.

* `Span` is what the pairing says about a block: its fence, its interior, and where that lies.
* `Block.extract?_of_greedy` reads the blocks off the pairs of the lines.
* `extract?_greedy` is the full statement: the pairs exist, they are determined by the lines, the
  searches find them one after the other, and the blocks are exactly these pairs.
-/

/-- A fence with its interior, and the bytes between which the interior lies. -/
structure Span where
  fence : Fence
  code : Text
  start : Nat
  stop : Nat
  deriving DecidableEq, Repr

/-- What a block says apart from its marker and its lines. -/
def Block.span (b : Block) : Span := ⟨b.fence, b.code, b.start, b.stop⟩

/-- The spans of pairs behind so many bytes: an interior starts behind the opening fence and ends in
    front of the closing one. -/
def spansFrom (offset : Nat) : List Pair → List Span
  | [] => []
  | p :: ps =>
    let start := offset + Text.size (p.before.flatten ++ p.opener)
    let stop := start + Text.size p.inner.flatten
    ⟨p.fence, p.inner.flatten, start, stop⟩ :: spansFrom (stop + Text.size p.closer) ps

/-- The sections of pairs lie where the pairs do. -/
theorem span_listFrom (newline : Text) (m : Marker) (before lead : Text) (ps : List Pair) :
    (Block.listFrom newline before (Document.sectionsOf m lead ps)).map Block.span =
      spansFrom (Text.size (before ++ lead)) ps := by
  induction ps generalizing m before lead with
  | nil => rfl
  | cons p ps ih =>
    rw [Document.sectionsOf, Block.listFrom, List.map_cons, ih, spansFrom]
    congr 1
    · simp [Block.span, Block.ofSection, Document.sectionOf, Nat.add_assoc]
    · simp [Document.sectionOf, Nat.add_assoc]

/-- They are the blocks of these pairs. -/
theorem toSnippet_listFrom (newline before lead : Text) (ps : List Pair) :
    (Block.listFrom newline before (Document.sectionsOf .absent lead ps)).map
      (fun b => b.toSnippet) = ps.map Pair.snippet := by
  induction ps generalizing before lead with
  | nil => rfl
  | cons p ps ih =>
    rw [Document.sectionsOf, Block.listFrom, List.map_cons, List.map_cons, ih]
    rfl

/-- The text of a document goes on behind its first section. -/
theorem Document.append_text_cons (before : Text) (s : Section) (ss : List Section) (rest : Text) :
    before ++ (Document.mk (s :: ss) rest).text =
      before ++ s.lead ++ s.code ++ (Document.mk ss rest).text := by
  have hcons := Document.text_consSection s ⟨ss, rest⟩
  rw [Document.consSection] at hcons
  rw [hcons]
  simp

/-- A block lies where it says. -/
theorem exists_eq_append_of_mem_listFrom {newline before : Text} {ss : List Section} {b : Block}
    (h : b ∈ Block.listFrom newline before ss) (rest : Text) :
    ∃ x y, before ++ (Document.mk ss rest).text = x ++ b.code ++ y ∧ Text.size x = b.start ∧
      Text.size (x ++ b.code) = b.stop := by
  induction ss generalizing before with
  | nil => cases h
  | cons s ss ih =>
    rw [Document.append_text_cons]
    rcases List.mem_cons.mp h with rfl | h
    · exact ⟨before ++ s.lead, (Document.mk ss rest).text, rfl, rfl, rfl⟩
    · exact ih h

/-- The blocks of a text are those of the document that it makes up. -/
theorem Block.extract?_eq_ok_iff {t : Text} {bs : List Block} :
    Block.extract? t = .ok bs ↔
      Search.givesUp t = false ∧ bs = Block.list (Text.newline t).text (Document.ofText t) := by
  rw [Block.extract?, Document.scan?]
  cases hgives : Search.givesUp t with
  | true => simp
  | false =>
    rw [if_neg Bool.false_ne_true]
    simp [eq_comm]

/-- The blocks of a text are the pairs of its lines. -/
theorem Block.extract?_of_greedy {source : Text} {bs : List Block}
    (hbs : extract? source = .ok bs) {ps : List Pair} {tail : List Text}
    (h : Greedy (Text.lines source) ps tail) :
    bs.map span = spansFrom 0 ps ∧ bs.map (fun b => b.toSnippet) = ps.map Pair.snippet ∧
      ∀ b ∈ bs, ∃ x y, source = x ++ b.code ++ y ∧ Text.size x = b.start ∧
        Text.size (x ++ b.code) = b.stop := by
  obtain ⟨-, rfl⟩ := extract?_eq_ok_iff.mp hbs
  have hd : Document.ofText source = Document.ofPairs .absent [] ps tail :=
    Document.ofLines_greedy h
  refine ⟨?_, ?_, ?_⟩
  · rw [hd, Block.list]
    exact span_listFrom _ _ _ _ _
  · rw [hd, Block.list]
    exact toSnippet_listFrom _ _ _ _
  · intro b hb
    have hmem := exists_eq_append_of_mem_listFrom hb (Document.ofText source).rest
    rwa [List.nil_append, show Document.mk (Document.ofText source).sections
      (Document.ofText source).rest = Document.ofText source from rfl,
      Document.text_ofText] at hmem

/-- **Blocks are greedily paired fences.**  If the scan ends, then the lines of a text can be paired
    in exactly one way: from the top, the first opening fence with a closing fence further on goes
    with the first such one.  The searches of the text find these pairs and end behind their closing
    fences, one after the other.  The blocks are these pairs and no others, in order, each with the
    fence and the interior of its pair, and each interior is the part of the text between its two
    offsets. -/
theorem extract?_greedy (source : Text) (hscan : Search.givesUp source = false) :
    ∃ bs ps tail, Block.extract? source = .ok bs ∧ Greedy (Text.lines source) ps tail ∧
      (∀ ps' tail', Greedy (Text.lines source) ps' tail' → ps' = ps ∧ tail' = tail) ∧
      Search.Visits source.length true source (Search.hits ps tail) ∧
      bs.map Block.span = spansFrom 0 ps ∧
      ∀ b ∈ bs, ∃ x y, source = x ++ b.code ++ y ∧ Text.size x = b.start ∧
        Text.size (x ++ b.code) = b.stop := by
  obtain ⟨ps, tail, h⟩ := Greedy.exists (Text.lines source)
  have hbs := Block.extract?_eq_ok_iff.mpr ⟨hscan, rfl⟩
  obtain ⟨hspans, -, hplaces⟩ := Block.extract?_of_greedy hbs h
  exact ⟨_, ps, tail, hbs, h, fun _ _ h' => h'.unique h, Search.visits_of_greedy hscan h, hspans,
    hplaces⟩

/-- A fence without an indentation does not close an indented one. -/
theorem extract?_greedy_indented :
    ∃ bs ps tail,
      Greedy (Text.lines "  ```py\n  x\n```\n  y\n  ```\nz".toList) ps tail ∧
      Block.extract? "  ```py\n  x\n```\n  y\n  ```\nz".toList = .ok bs ∧
      bs.map Block.span = spansFrom 0 ps ∧
      spansFrom 0 ps = [⟨⟨"  ".toList, "py".toList⟩, "  x\n```\n  y\n".toList, 8, 20⟩] := by
  obtain ⟨bs, ps, tail, hbs, hgreedy, -, -, hspans, -⟩ :=
    extract?_greedy "  ```py\n  x\n```\n  y\n  ```\nz".toList (by decide)
  refine ⟨bs, ps, tail, hgreedy, hbs, hspans, ?_⟩
  obtain ⟨-, rfl⟩ := Block.extract?_eq_ok_iff.mp hbs
  rw [← hspans]
  decide

end FenceSync
