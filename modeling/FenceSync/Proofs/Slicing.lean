import FenceSync.Proofs.CarriageReturns
import FenceSync.Proofs.FileLookup
import FenceSync.Proofs.Spelling

namespace FenceSync

/-!
# Ranges of a file

Embedding some lines of a file is the same as embedding a file that consists of these lines.

* `Text.portion` is the text of the lines that a range selects, and `selectedLines_slice` says that
  selecting lines yields these.
* `embeddedText_portion` says that the range of a file and the file of the portion embed the same.
* `Snippet.resolve_directive` says that the text of a marker matters only for what it reads as.
* `Snippet.resolve_range` is the full statement.
-/

/-! ### Selecting lines -/

/-- The elements counted from `a` on, as far as the one before `b`. -/
def elementsBetween {α : Type} (a b : Nat) (xs : List α) : List α :=
  (xs.zipIdx.filter fun x => a ≤ x.2 ∧ x.2 < b).map (·.1)

/-- The lines of a text that a range selects, or the text itself if the range is empty or
    inverted. -/
def Text.portion (a b : Nat) (t : Text) : Text :=
  if a < b then Text.joinWith ['\n'] (elementsBetween a b (Text.splitOn ['\n'] t)) else t

theorem map_fst_filter_zipIdx {α : Type} (a b k : Nat) (xs : List α) :
    ((xs.zipIdx k).filter fun x => a ≤ x.2 ∧ x.2 < b).map (·.1) =
      (xs.take (b - k)).drop (a - k) := by
  induction xs generalizing k with
  | nil => simp
  | cons x xs ih =>
    rw [List.zipIdx_cons, List.filter_cons]
    by_cases hb : k < b
    · rw [show b - k = b - (k + 1) + 1 by omega, List.take_succ_cons]
      by_cases ha : a ≤ k
      · rw [if_pos (by simp [ha, hb]), List.map_cons, ih, Nat.sub_eq_zero_of_le ha,
          Nat.sub_eq_zero_of_le (by omega : a ≤ k + 1), List.drop_zero, List.drop_zero]
      · rw [if_neg (by simp [ha]), ih, show a - k = a - (k + 1) + 1 by omega, List.drop_succ_cons]
    · rw [if_neg (by simp [hb]), ih, Nat.sub_eq_zero_of_le (by omega : b ≤ k),
        Nat.sub_eq_zero_of_le (by omega : b ≤ k + 1), List.take_zero, List.take_zero,
        List.drop_nil, List.drop_nil]

theorem elementsBetween_eq {α : Type} (a b : Nat) (xs : List α) :
    elementsBetween a b xs = (xs.take b).drop a := map_fst_filter_zipIdx a b 0 xs

theorem mem_of_mem_elementsBetween {α : Type} {a b : Nat} {xs : List α} {x : α}
    (h : x ∈ elementsBetween a b xs) : x ∈ xs := by
  rw [elementsBetween_eq] at h
  exact List.mem_of_mem_take (List.mem_of_mem_drop h)

/-- **A range selects the elements between its bounds**, as many of them as there are. -/
theorem selectedLines_slice {α : Type} {a b : Nat} (h : a < b) (xs : List α) :
    (selectedLines (some ⟨a, b⟩) xs.length).slice xs = elementsBetween a b xs := by
  have htake : xs.take (min b xs.length) = xs.take b := List.take_eq_take_min.symm
  rw [selectedLines, LineRange.within, if_neg (by simp only; omega), LineRange.slice,
    elementsBetween_eq]
  simp only
  rw [htake]
  by_cases hlen : a ≤ min b xs.length
  · rw [Nat.min_eq_left hlen]
  · rw [Nat.min_eq_right (by omega), List.drop_of_length_le (by simp),
      List.drop_of_length_le (by rw [List.length_take]; omega)]

/-- An empty or inverted range selects what no range does. -/
theorem selectedLines_of_le {a b : Nat} (h : b ≤ a) (count : Nat) :
    selectedLines (some ⟨a, b⟩) count = selectedLines none count := if_pos h

theorem selectedLines_none_slice {α : Type} (xs : List α) :
    (selectedLines none xs.length).slice xs = xs := List.take_length

/-! ### The lines of a file -/

/-- The lines of a file without a CR. -/
theorem linesOfFile_utf8 {t : Text} (h : '\r' ∉ t) (range : Option LineRange) :
    linesOfFile range (Text.utf8 t) =
      dedent ((selectedLines range (Text.splitOn ['\n'] t).length).slice
        (Text.splitOn ['\n'] t)) := by
  rw [linesOfFile, Bytes.newline_utf8, Text.newline_eq_lf h, Bytes.lossyText_utf8]
  rfl

theorem Text.cr_notMem_portion {t : Text} (h : '\r' ∉ t) (a b : Nat) :
    '\r' ∉ Text.portion a b t := by
  rw [Text.portion]
  split
  · intro hcr
    rcases Text.mem_or_mem_of_mem_joinWith hcr with hlf | ⟨line, hline, hcr⟩
    · exact absurd hlf (by decide)
    · exact h (Text.mem_of_mem_splitOn .lf (mem_of_mem_elementsBetween hline) hcr)
  · exact h

/-- **The range of a file embeds the same text as the file of the portion.** -/
theorem embeddedText_portion {t : Text} (h : '\r' ∉ t) (a b : Nat) (newline : Text) :
    embeddedText newline (linesOfFile (some ⟨a, b⟩) (Text.utf8 t)) =
      embeddedText newline (linesOfFile none (Text.utf8 (Text.portion a b t))) := by
  rw [linesOfFile_utf8 h, linesOfFile_utf8 (Text.cr_notMem_portion h a b), selectedLines_none_slice,
    Text.portion]
  split
  · next hab =>
    rw [selectedLines_slice hab]
    have hpieces : ∀ line ∈ elementsBetween a b (Text.splitOn ['\n'] t), Text.IsPiece .lf line :=
      fun line hline => Text.isPiece_of_mem_splitOn .lf (mem_of_mem_elementsBetween hline)
    generalize elementsBetween a b (Text.splitOn ['\n'] t) = ls at hpieces
    by_cases hls : ls = []
    · -- The empty file has one line, which is empty, and the empty range none.
      subst hls
      rfl
    · exact congrArg (fun ls => embeddedText newline (dedent ls))
        (Text.splitOn_joinWith .lf hls hpieces).symm
  · next hab => rw [selectedLines_of_le (by omega), selectedLines_none_slice]

/-! ### Blocks with a marker -/

/-- What a block with a marker asks for: the directive that the marker reads as, if comments in its
    language are known. -/
theorem Snippet.demand_directive {text : Text} {d : Directive} (h : Directive.ofText? text = some d)
    (s : Snippet) :
    ({ s with marker := .directive text } : Snippet).demand =
      match CommentStyle.ofLanguage? s.fence.language with
      | none => .settled (.languageUnresolved s.fence.language)
      | some style => .wanted style text d := by
  rw [Snippet.demand, if_neg (by simp)]
  cases CommentStyle.ofLanguage? s.fence.language with
  | none => rfl
  | some style => simp only [Snippet.directiveText?, h]

/-- A block with a marker gets no comment, so that only the embedded text matters. -/
theorem Snippet.settle_directive {o : Options} {style : CommentStyle} {text text' newline : Text}
    {ls ls' : List Text} (h : embeddedText newline ls = embeddedText newline ls') (s : Snippet) :
    ({ s with marker := .directive text } : Snippet).settle o style text newline ls =
      ({ s with marker := .directive text' } : Snippet).settle o style text' newline ls' := by
  simp only [Snippet.settle, Snippet.header, h]
  rfl

/-- The path of a file directive leads to a file with this content. -/
def Surroundings.LeadsTo (env : Surroundings Id) (o : Options) (path : Text) (content : Bytes) :
    Prop :=
  ∃ before p after, o.candidates path = before ++ p :: after ∧ FirstFile env before p ∧
    (env.read p).run = .ok content

/-- A block with a file directive in a marker is settled with the content of the file. -/
theorem Snippet.resolve_directive {env : Surroundings Id} {o : Options} {text path : Text}
    {range : Option LineRange} {content : Bytes}
    (h : Directive.ofText? text = some (.file path range))
    (hfile : env.LeadsTo o path content) (s : Snippet) (newline : Text) :
    (Snippet.resolve env o { s with marker := .directive text } newline).run.run =
      match CommentStyle.ofLanguage? s.fence.language with
      | none => .ok (.languageUnresolved s.fence.language)
      | some style => ({ s with marker := .directive text } : Snippet).settle o style text newline
          (linesOfFile range content) := by
  obtain ⟨before, p, after, hplaces, hfirst, hread⟩ := hfile
  have hd := Snippet.demand_directive h s
  cases hl : CommentStyle.ofLanguage? s.fence.language with
  | none =>
    rw [hl] at hd
    rw [Snippet.resolve_run, hd]
  | some style =>
    rw [hl] at hd
    rw [Snippet.resolve_run_of_first newline hd hplaces hfirst, hread]

/-- A path that reads as a file without a range can be given any range. -/
theorem Directive.ofText?_ranged {bare path ranged : Text} {r : LineRange}
    (hpath : ofText? bare = some (.file path none)) (hstart : r.start < UInt64.size)
    (hstop : r.stop < UInt64.size)
    (hranged : Text.trim ranged = (Directive.file path (some r)).text) :
    ofText? ranged = some (.file path (some r)) := by
  have hcanonical : IsCanonical (.file path (some r)) :=
    ⟨(isCanonical_of_ofText? hpath).1, hstart, hstop⟩
  have htrim : Text.trim ranged = Text.trim (Directive.file path (some r)).text := by
    rw [Text.trim_eq_self (isCore_text hcanonical), hranged]
  rw [ofText?_congr htrim, ofText?_text hcanonical]

/-- **Embedding a range is embedding the slice.**  Take a path that reads as a file directive
    without a range, and bounds below 2^64.

    * However many lines there are, the selection starts before it stops, and stops before they end.
    * A block whose marker gives the path with the range, and leads to a file without CR, becomes
      the same as with the bare path in surroundings where that leads to the file of the selected
      lines (or to the same file, for an empty or inverted range).  This is so for any block, any
      options and both newlines, failures included. -/
theorem Snippet.resolve_range {env env' : Surroundings Id} {o : Options} {bare path ranged t : Text}
    {a b : Nat} (hpath : Directive.ofText? bare = some (.file path none))
    (ha : a < UInt64.size) (hb : b < UInt64.size)
    (hranged : Text.trim ranged = (Directive.file path (some ⟨a, b⟩)).text) (hcr : '\r' ∉ t)
    (hfile : env.LeadsTo o path (Text.utf8 t))
    (hslice : env'.LeadsTo o path (Text.utf8 (Text.portion a b t))) (s : Snippet) (nl : Newline) :
    (∀ count, let r := selectedLines (some ⟨a, b⟩) count
      r.start ≤ r.stop ∧ r.stop ≤ count) ∧
    (Snippet.resolve env o { s with marker := .directive ranged } nl.text).run.run =
      (Snippet.resolve env' o { s with marker := .directive bare } nl.text).run.run := by
  refine ⟨fun count => selectedLines_le (some ⟨a, b⟩) count, ?_⟩
  have hread := Directive.ofText?_ranged (r := ⟨a, b⟩) hpath ha hb hranged
  rw [Snippet.resolve_directive hread hfile, Snippet.resolve_directive hpath hslice]
  cases CommentStyle.ofLanguage? s.fence.language with
  | none => rfl
  | some style => exact Snippet.settle_directive (embeddedText_portion hcr a b nl.text) s

/-- A range that goes beyond the end, with an indentation that the lines of the range share. -/
theorem Snippet.resolve_range_beyond :
    let o := Options.inDir ⟨['/']⟩
    let s : Snippet := ⟨.absent, ⟨['\t'], "sh".toList⟩, []⟩
    let t : Text := "if\n\ta\n\n\t b\n".toList
    let result := fun t marker => (Snippet.resolve
      (.ofFiles [(⟨"/a.sh".toList⟩, .ok (Text.utf8 t))]) o
      { s with marker := .directive marker } Newline.crlf.text).run.run
    Text.portion 1 9 t = "\ta\n\n\t b\n".toList ∧
      result t "a.sh#L1-L9".toList = .ok (.resolved "\ta\r\n\t\r\n\t b\r\n".toList 3) ∧
      result t "a.sh#L1-L9".toList = result (Text.portion 1 9 t) "a.sh".toList := by
  intro o s t result
  have hfile : ∀ content : Bytes,
      (Surroundings.ofFiles [(⟨"/a.sh".toList⟩, .ok content)]).LeadsTo o "a.sh".toList content :=
    fun content => ⟨[], ⟨"/a.sh".toList⟩, [], by decide, ⟨by simp, rfl⟩, rfl⟩
  have hpath : Directive.ofText? "a.sh".toList = some (.file "a.sh".toList none) := by
    decide
  have hranged : Text.trim "a.sh#L1-L9".toList =
      (Directive.file "a.sh".toList (some ⟨1, 9⟩)).text := by
    decide
  have hcr : '\r' ∉ t := by decide
  obtain ⟨-, hsame⟩ := Snippet.resolve_range hpath (by decide) (by decide) hranged hcr (hfile _)
    (hfile _) s .crlf
  exact ⟨by decide, by decide, hsame⟩

end FenceSync
