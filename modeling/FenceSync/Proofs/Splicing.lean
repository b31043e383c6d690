import FenceSync.Proofs.Extraction
import FenceSync.Proofs.Rescan
import FenceSync.Proofs.Running

namespace FenceSync

/-!
# Embedding splices

An embedded document is the old one with the bytes of some interiors replaced, and nothing else is
touched.

* `Text.IsSlice` says that a part of a text lies between two bytes, and so on the boundaries of
  characters.
* `Block.extract?_places` says that blocks lie where they say, in order and apart.
* `Bytes.editFrom` replaces ranges of bytes, and `editsOf` are the ranges that an embedding replaces.
* `embed_splices` is the main result.
-/

/-! ### Bytes of a text -/

namespace Text

theorem utf8_append (s t : Text) : utf8 (s ++ t) = utf8 s ++ utf8 t :=
  List.flatMap_append

theorem length_utf8 (t : Text) : (utf8 t).length = size t := by
  induction t with
  | nil => rfl
  | cons c t ih =>
    have hcons : utf8 (c :: t) = String.utf8EncodeChar c ++ utf8 t := List.flatMap_cons
    rw [hcons, List.length_append, ih, String.length_utf8EncodeChar, size_cons]

theorem take_utf8 (s t : Text) : (utf8 (s ++ t)).take (size s) = utf8 s := by
  rw [utf8_append, ← length_utf8, List.take_left]

theorem drop_utf8 (s t : Text) : (utf8 (s ++ t)).drop (size s) = utf8 t := by
  rw [utf8_append, ← length_utf8, List.drop_left]

theorem drop_utf8_append {s : Text} {n : Nat} (h : n ≤ size s) (t : Text) :
    (utf8 (s ++ t)).drop n = (utf8 s).drop n ++ utf8 t := by
  rw [utf8_append, List.drop_append_of_le_length (length_utf8 s ▸ h)]

theorem size_pos {t : Text} (h : t ≠ []) : 0 < size t := by
  obtain ⟨c, t, rfl⟩ := List.exists_cons_of_ne_nil h
  exact Nat.add_pos_left c.utf8Size_pos (size t)

/-- The part of the text lies between the two bytes. -/
def IsSlice (t : Text) (start stop : Nat) (part : Text) : Prop :=
  ∃ x y, t = x ++ part ++ y ∧ size x = start ∧ size (x ++ part) = stop

/-- A slice lies inside the text, and its bytes are those between the two places. -/
theorem IsSlice.spec {t part : Text} {start stop : Nat} (h : t.IsSlice start stop part) :
    start ≤ stop ∧ stop ≤ size t ∧ ((utf8 t).take stop).drop start = utf8 part := by
  obtain ⟨x, y, rfl, rfl, rfl⟩ := h
  refine ⟨?_, ?_, ?_⟩
  · rw [size_append]
    exact Nat.le_add_right _ _
  · rw [size_append (x ++ part)]
    exact Nat.le_add_right _ _
  · rw [take_utf8, drop_utf8]

end Text

/-! ### Where blocks lie -/

/-- Blocks lie behind the text that their sections follow, one behind the other, with at least the
    opening fence in between. -/
theorem pairwise_listFrom (newline before : Text) {ss : List Section}
    (hlead : ∀ s ∈ ss, s.lead ≠ []) :
    (∀ b ∈ Block.listFrom newline before ss, Text.size before < b.start) ∧
      (Block.listFrom newline before ss).Pairwise fun b c => b.stop < c.start := by
  induction ss generalizing before with
  | nil => exact ⟨by simp [Block.listFrom], .nil⟩
  | cons s ss ih =>
    obtain ⟨hbehind, hapart⟩ := ih (before ++ s.lead ++ s.code)
      fun s' hs' => hlead s' (List.mem_cons_of_mem _ hs')
    have hpos : 0 < Text.size s.lead := Text.size_pos (hlead s (by simp))
    have hstart : Text.size before < (Block.ofSection newline before s).start := by
      show Text.size before < Text.size (before ++ s.lead)
      rw [Text.size_append]
      omega
    have hstop : Text.size (before ++ s.lead ++ s.code) =
        (Block.ofSection newline before s).stop := rfl
    refine ⟨?_, List.pairwise_cons.mpr ⟨?_, hapart⟩⟩
    · intro b hb
      rcases List.mem_cons.mp hb with rfl | hb
      · exact hstart
      · have := hbehind b hb
        rw [Text.size_append, Text.size_append] at this
        omega
    · intro b hb
      exact hstop ▸ hbehind b hb

/-- **Blocks lie where they say**: the bytes between their ends are their interiors, and every block
    ends before the next one starts. -/
theorem Block.extract?_places {t : Text} {bs : List Block} (h : Block.extract? t = .ok bs) :
    (∀ b ∈ bs, b.start ≤ b.stop ∧ b.stop ≤ Text.size t ∧ t.IsSlice b.start b.stop b.code) ∧
      bs.Pairwise fun b c => b.stop < c.start := by
  obtain ⟨-, rfl⟩ := Block.extract?_eq_ok_iff.mp h
  constructor
  · intro b hb
    have hplace := exists_eq_append_of_mem_listFrom hb (Document.ofText t).rest
    have htext : [] ++ (Document.mk (Document.ofText t).sections (Document.ofText t).rest).text =
        t := Document.text_ofText t
    rw [htext] at hplace
    have hslice : t.IsSlice b.start b.stop b.code := hplace
    exact ⟨hslice.spec.1, hslice.spec.2.1, hslice⟩
  · refine (pairwise_listFrom _ _ ?_).2
    intro s hs hnil
    have hlast := (Document.ofText_spec hs).2.2
    rw [hnil] at hlast
    cases hlast

/-! ### Replacing ranges of bytes -/

/-- New bytes in the place of those between `start` and `stop`. -/
structure Edit where
  start : Nat
  stop : Nat
  new : Bytes
  deriving DecidableEq, Repr

/-- Replace ranges of bytes, from left to right; what lies in front of the first `done` bytes has
    been dealt with. -/
def Bytes.editFrom (bs : Bytes) : Nat → List Edit → Bytes
  | done, [] => bs.drop done
  | done, e :: es => (bs.take e.start).drop done ++ e.new ++ editFrom bs e.stop es

/-- The replacement for a block, if it gets one. -/
def Block.edit? (b : Block) : Outcome → Option Edit
  | .resolved replacement _ => some ⟨b.start, b.stop, Text.utf8 replacement⟩
  | _ => none

/-- The replacements for blocks with the given reports. -/
def editsOf (bs : List Block) (reports : List BlockReport) : List Edit :=
  (bs.zip reports).filterMap fun p => p.1.edit? p.2.outcome

theorem editsOf_cons (b : Block) (bs : List Block) (r : BlockReport) (rs : List BlockReport) :
    editsOf (b :: bs) (r :: rs) = (b.edit? r.outcome).toList ++ editsOf bs rs := by
  rw [editsOf, List.zip_cons_cons, List.filterMap_cons]
  cases b.edit? r.outcome <;> rfl

/-- An outcome either replaces the interior of its block or keeps it. -/
theorem Block.edit?_eq (b : Block) (out : Outcome) :
    (∃ new, out.interior b.code = new ∧ b.edit? out = some ⟨b.start, b.stop, Text.utf8 new⟩) ∨
      (out.interior b.code = b.code ∧ b.edit? out = none) := by
  cases out with
  | resolved replacement n => exact .inl ⟨replacement, rfl, rfl⟩
  | _ => exact .inr ⟨rfl, rfl⟩

/-- **New interiors are edits.**  The text behind the first `done` bytes of a document is the old one
    with the interiors replaced.  The induction is on the sections: behind an edit everything up to
    its end has been dealt with, behind a block that stays the way it is `done` is where it was. -/
theorem editFrom_splice (newline rest : Text) {ss : List Section} {outs : List Outcome}
    (hlen : ss.length = outs.length) (before : Text) {done : Nat} (hdone : done ≤ Text.size before) :
    Bytes.editFrom (Text.utf8 (before ++ (Document.mk ss rest).text)) done
        (editsOf (Block.listFrom newline before ss)
          (reportsOn (Block.listFrom newline before ss) outs)) =
      (Text.utf8 before).drop done ++ Text.utf8 (splice ss outs ++ rest) := by
  induction ss generalizing outs before done with
  | nil =>
    have htext : (Document.mk [] rest).text = rest := by
      simp [Document.text, Document.textWith]
    rw [htext, splice, List.zipWith_nil_left, List.flatten_nil, List.nil_append]
    exact Text.drop_utf8_append hdone rest
  | cons s ss ih =>
    cases outs with
    | nil => cases hlen
    | cons out outs =>
      have hlen' : ss.length = outs.length := by simpa using hlen
      have hlead : done ≤ Text.size (before ++ s.lead) := by
        rw [Text.size_append]
        omega
      have hcode : done ≤ Text.size (before ++ s.lead ++ s.code) := by
        rw [Text.size_append]
        omega
      rw [Block.listFrom, reportsOn_cons, editsOf_cons,
        Document.append_text_cons, splice_cons]
      rcases (Block.ofSection newline before s).edit?_eq out with ⟨new, hnew, hedit⟩ | ⟨hold, hedit⟩
      · have hnew' : out.interior s.code = new := hnew
        have hstart : (Block.ofSection newline before s).start =
            Text.size (before ++ s.lead) := rfl
        have hstop : (Block.ofSection newline before s).stop =
            Text.size (before ++ s.lead ++ s.code) := rfl
        have hbehind := ih hlen' _ (le_refl (Text.size (before ++ s.lead ++ s.code)))
        have hnone : (Text.utf8 (before ++ s.lead ++ s.code)).drop
            (Text.size (before ++ s.lead ++ s.code)) = [] := by
          rw [← Text.length_utf8, List.drop_length]
        have hfront : (Text.utf8 (before ++ s.lead ++ s.code ++
            (Document.mk ss rest).text)).take (Text.size (before ++ s.lead)) =
              Text.utf8 (before ++ s.lead) := by
          rw [List.append_assoc (before ++ s.lead)]
          exact Text.take_utf8 _ _
        rw [hedit, Option.toList_some, List.singleton_append, Bytes.editFrom, hstart, hstop, hfront,
          hbehind, hnone, Text.drop_utf8_append hdone, hnew']
        simp [Text.utf8_append]
      · have hold' : out.interior s.code = s.code := hold
        have hbehind := ih hlen' _ hcode
        rw [hedit, Option.toList_none, List.nil_append, hbehind, Text.drop_utf8_append hlead,
          Text.drop_utf8_append hdone, hold']
        simp [Text.utf8_append]

/-! ### The whole document -/

/-- Reports name the lines of their blocks. -/
theorem lines_reportsOn {bs : List Block} {outs : List Outcome} (h : bs.length = outs.length) :
    (reportsOn bs outs).map (fun r => (r.startLine, r.endLine)) =
      bs.map fun b => (b.startLine, b.endLine) := by
  induction bs generalizing outs with
  | nil => rfl
  | cons b bs ih =>
    cases outs with
    | nil => cases h
    | cons out outs =>
      rw [reportsOn_cons, List.map_cons, List.map_cons, ih (by simpa using h)]

/-- **Embedding is an exact splice**, whatever files and commands do meanwhile.  The blocks of the
    document lie in order and apart, each with its interior between its ends; there is one report
    for each of them, with its lines; and the new document consists of the bytes of the old one, with
    the interiors that are reported as resolved replaced and all others in place. -/
theorem embed_splices {σ : Type} {env : Surroundings (StateM σ)} {o : Options}
    {path markdown : Text} {r : EmbedResult} {st st' : σ}
    (h : runFrom (embed env o path markdown) st = (.ok r, st')) :
    ∃ bs, Block.extract? markdown = .ok bs ∧
      (∀ b ∈ bs, b.start ≤ b.stop ∧ b.stop ≤ Text.size markdown ∧
        markdown.IsSlice b.start b.stop b.code) ∧
      (bs.Pairwise fun b c => b.stop < c.start) ∧
      (r.blocks.map fun b => (b.startLine, b.endLine)) =
        (bs.map fun b => (b.startLine, b.endLine)) ∧
      Text.utf8 r.content = (Text.utf8 markdown).editFrom 0 (editsOf bs r.blocks) := by
  obtain ⟨hscan, outs, houts, rfl⟩ := embed_runFrom h
  have hbs := Block.extract?_eq_ok_iff.mpr ⟨hscan, rfl⟩
  obtain ⟨hplaces, hapart⟩ := Block.extract?_places hbs
  have hlen := houts.length_eq
  refine ⟨_, hbs, hplaces, hapart, ?_, ?_⟩
  · exact lines_reportsOn ((length_listFrom _ _ _).trans hlen)
  · have hedits := editFrom_splice (Text.newline markdown).text (Document.ofText markdown).rest
      hlen [] (Nat.zero_le _)
    have htext : [] ++ (Document.mk (Document.ofText markdown).sections
        (Document.ofText markdown).rest).text = markdown := Document.text_ofText markdown
    rw [htext] at hedits
    exact hedits.symm

/-- Surroundings in which every command prints one letter more than the one before it. -/
def Surroundings.growing : Surroundings (StateM Nat) where
  isFile _ := pure false
  read _ := pure (.error .notFound)
  run _ _ := fun n => (.ok ⟨Text.utf8 (List.replicate n 'x'), 0, true⟩, n + 1)
  log _ := pure ()

/-- Two blocks with the same command, between letters of two bytes. -/
theorem embed_splices_growing :
    let markdown := "é\n```sh\n# $ w\n```\né\n```sh\n# $ w\n```\n".toList
    ∃ r st' bs,
      runFrom (embed Surroundings.growing (Options.inDir ⟨['/']⟩) [] markdown) 1 = (.ok r, st') ∧
      Block.extract? markdown = .ok bs ∧
      editsOf bs r.blocks = [⟨9, 15, Text.utf8 "# $ w\n\nx\n".toList⟩,
        ⟨28, 34, Text.utf8 "# $ w\n\nxx\n".toList⟩] ∧
      Text.utf8 r.content = (Text.utf8 markdown).editFrom 0 (editsOf bs r.blocks) := by
  intro markdown
  have h : runFrom (embed Surroundings.growing (Options.inDir ⟨['/']⟩) [] markdown) 1 =
      (.ok ⟨"é\n```sh\n# $ w\n\nx\n```\né\n```sh\n# $ w\n\nxx\n```\n".toList,
        [⟨3, 4, .resolved "# $ w\n\nx\n".toList 1⟩, ⟨7, 8, .resolved "# $ w\n\nxx\n".toList 1⟩]⟩,
        3) := by
    decide +kernel
  obtain ⟨bs, hbs, -, -, -, hcontent⟩ := embed_splices h
  refine ⟨_, _, bs, h, hbs, ?_, hcontent⟩
  have hbs' : (Block.extract? markdown).map (fun bs => bs.map fun b => (b.start, b.stop)) =
      .ok [(9, 15), (28, 34)] := by
    decide
  rw [hbs] at hbs'
  match bs, hbs' with
  | [b, c], hbs' =>
    simp only [Except.map, List.map_cons, List.map_nil, Except.ok.injEq, List.cons.injEq,
      Prod.mk.injEq, and_true] at hbs'
    obtain ⟨⟨hb, hb'⟩, hc, hc'⟩ := hbs'
    simp [editsOf, Block.edit?, hb, hb', hc, hc']

end FenceSync
