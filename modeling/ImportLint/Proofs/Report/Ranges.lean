import ImportLint.Proofs.Report.Positions
import ImportLint.Report.Diagnostic

/-!
# Reports — the range of a diagnostic

A diagnostic that tells a file, a first byte and a number of bytes becomes a range of the lines of
that file, if the file can be read.  Any other one becomes a report on the visited file.

* `Text.exists_line`: the column of an offset stands in its line.
* `IsSpan`: what the two ends of a range tell about the bytes between them.
* `isSpan_position`: the positions of two offsets are such ends.
* `Diagnostic.toReport_of_isPlaced`, `Diagnostic.toReport_of_not_isPlaced`: the two reports.
* `toReport_exact`: which of them is made, and what it tells.
* `toReport_crowded`: a range whose ends are not in order.
-/

namespace ImportLint

/-! ### Lines -/

/-- The line that an offset stands in. -/
theorem Text.exists_line (t : Text) (offset : Nat) :
    ∃ line, (t.splitOn '\n')[(t.placeAt offset).line - 1]? = some line ∧
      (t.placeAt offset).column ≤ line.length := by
  obtain ⟨before, after, hcut⟩ : ∃ before after, t.splitAtByte offset = (before, after) :=
    ⟨_, _, rfl⟩
  obtain rfl : before ++ after = t := by
    rw [← Text.splitAtByte_append_splitAtByte offset t, hcut]
  obtain ⟨head, line, hbefore, hl, hcolumn, hh⟩ := before.exists_lastLine
  obtain ⟨s, ss, -, hline⟩ := splitOn_append hl after
  have hnumber : before.endPlace.line - 1 = head.count '\n' := by
    rw [endPlace, hbefore, List.count_append, List.count_eq_zero_of_not_mem hl]
    exact Nat.add_sub_cancel_left 1 _
  refine ⟨line ++ s, ?_, ?_⟩
  · rw [placeAt, hcut, hnumber, hbefore, List.append_assoc]
    rcases hh with rfl | ⟨h, rfl⟩
    · rw [List.nil_append, hline]
      rfl
    · have hlength : (splitOn '\n' h).length = (h ++ ['\n']).count '\n' := by
        rw [length_splitOn, List.count_append]
        rfl
      rw [List.append_assoc, List.singleton_append, splitOn_append_sep, hline, ← hlength,
        List.getElem?_append_right (Nat.le_refl _), Nat.sub_self]
      rfl
  · rw [placeAt, hcut, ← hcolumn, List.length_append]
    exact Nat.le_add_right _ _

/-! ### Spans -/

/-- What the two ends of a range tell about the bytes between two offsets of a text. -/
structure IsSpan (text : Text) (start stop : Nat) (first last : Position) : Prop where
  first_eq : first = (LineTable.ofText text).position start
  last_eq : last = (LineTable.ofText text).position stop
  one_le_line : 1 ≤ first.line
  line_le_line : first.line ≤ last.line
  line_le_lineCount : last.line ≤ (LineTable.ofText text).lineCount
  /-- The ends are in order, unless both are in lines whose numbers cannot be told apart and the
  last one has the smaller column. -/
  first_le_last_iff : first ≤ last ↔
    (text.placeAt start).line < wordMax ∨ first.column ≤ last.column
  /-- They are, if the first offset is below the largest number that can be written or the last
  line has a number that can be written. -/
  first_le_last : start < wordMax ∨ (text.placeAt stop).line ≤ wordMax → first ≤ last
  first_column : ∃ line, (text.splitOn '\n')[(text.placeAt start).line - 1]? = some line ∧
    first.column ≤ line.length
  last_column : ∃ line, (text.splitOn '\n')[(text.placeAt stop).line - 1]? = some line ∧
    last.column ≤ line.length
  /-- In a text that is short enough for all its numbers, the ends are one position if no
  character ends between the offsets. -/
  first_eq_last : text.byteLength < wordMax →
    first ≤ last ∧ (first = last ↔ ∀ b, text.IsBoundary b → ¬ (start < b ∧ b ≤ stop))

/-- Offsets are cut at one boundary if there is none behind the first of them up to the other. -/
theorem Text.cut_eq_iff {t : Text} {m n : Nat} (h : m ≤ n) :
    (t.splitAtByte m).1.byteLength = (t.splitAtByte n).1.byteLength ↔
      ∀ b, t.IsBoundary b → ¬ (m < b ∧ b ≤ n) := by
  have hm := byteLength_splitAtByte_le m t
  have hn := byteLength_splitAtByte_le n t
  refine ⟨fun he b hb hbetween => ?_, fun hnone => ?_⟩
  · have := le_byteLength_splitAtByte hb hbetween.2
    omega
  · have hle := le_byteLength_splitAtByte (isBoundary_splitAtByte m t) (Nat.le_trans hm h)
    have hnot := hnone _ (isBoundary_splitAtByte n t)
    have hge := le_byteLength_splitAtByte (isBoundary_splitAtByte n t) (n := m) (by omega)
    omega

/-- **Positions of offsets in order** are the ends of a range. -/
theorem isSpan_position (text : Text) {start stop : Nat} (h : start ≤ stop) :
    IsSpan text start stop ((LineTable.ofText text).position start)
      ((LineTable.ofText text).position stop) where
  first_eq := rfl
  last_eq := rfl
  one_le_line := by
    rw [LineTable.position_eq]
    simp only [Position.capped, Text.placeAt, Text.endPlace, wordMax]
    omega
  line_le_line := LineTable.line_position_le text h
  line_le_lineCount := by
    have hcount := (List.IsPrefix.sublist
      ⟨_, Text.splitAtByte_append_splitAtByte stop text⟩).count_le '\n'
    rw [LineTable.position_eq, LineTable.lineCount_ofText]
    simp only [Position.capped, Text.placeAt, Text.endPlace]
    omega
  first_le_last_iff := LineTable.position_le_iff text h
  first_le_last := LineTable.position_le h
  first_column := by
    obtain ⟨line, hline, hcolumn⟩ := text.exists_line start
    rw [LineTable.position_eq]
    exact ⟨line, hline, Nat.le_trans (Nat.min_le_left _ _) hcolumn⟩
  last_column := by
    obtain ⟨line, hline, hcolumn⟩ := text.exists_line stop
    rw [LineTable.position_eq]
    exact ⟨line, hline, Nat.le_trans (Nat.min_le_left _ _) hcolumn⟩
  first_eq_last := by
    intro hshort
    rw [LineTable.position_eq_placeAt hshort, LineTable.position_eq_placeAt hshort,
      Text.placeAt_eq_iff, Text.cut_eq_iff h]
    exact ⟨Text.placeAt_le text h, Iff.rfl⟩

/-! ### The two reports -/

/-- A diagnostic that tells a file, a first byte and a number of bytes, and the text of the
file. -/
structure Diagnostic.IsPlaced (d : Diagnostic) (texts : Path → Option Text) (file : Path)
    (start length : Nat) (text : Text) : Prop where
  file_eq : d.file = some file
  start_eq : d.start = some start
  length_eq : d.length = some length
  length_pos : 0 < length
  text_eq : texts file = some text

namespace Diagnostic

variable {d : Diagnostic} {texts : Path → Option Text}

/-- A report says what its diagnostic says. -/
theorem says_toReport (d : Diagnostic) (node : Path) (table : Path → Option LineTable) :
    (d.toReport node table).category = d.category ∧ (d.toReport node table).code = d.code ∧
      (d.toReport node table).message = d.message := by
  unfold toReport
  simp only
  split <;> exact ⟨rfl, rfl, rfl⟩

theorem span?_eq_none (h : d.file = none) : d.span? = none := by
  rw [span?, h]
  rfl

theorem span?_eq_some {p : Path} {start length : Nat} (hf : d.file = some p)
    (hs : d.start = some start) (hl : d.length = some length) (hpos : 0 < length) :
    d.span? = some (p, start, length) := by
  rw [span?, hf, hs, hl]
  exact if_neg (Nat.ne_of_gt hpos)

theorem of_span?_eq_some {p : Path} {start length : Nat} (h : d.span? = some (p, start, length)) :
    d.file = some p ∧ d.start = some start ∧ d.length = some length ∧ 0 < length := by
  simp only [span?, Option.bind_eq_bind, Option.bind_eq_some_iff] at h
  obtain ⟨file, hf, s, hs, l, hl, h⟩ := h
  split at h
  · cases h
  · next hpos =>
    cases h
    exact ⟨hf, hs, hl, Nat.pos_of_ne_zero hpos⟩

/-- **A placed diagnostic** becomes a range in its file. -/
theorem toReport_of_isPlaced {file : Path} {start length : Nat} {text : Text}
    (h : d.IsPlaced texts file start length text) (node : Path) :
    (d.toReport node fun p => (texts p).map .ofText) =
      { file
        category := d.category
        code := d.code
        message := d.message
        location := .range ((LineTable.ofText text).position start)
          ((LineTable.ofText text).position (start + length)) } := by
  rw [toReport, span?_eq_some h.file_eq h.start_eq h.length_eq h.length_pos]
  simp [h.text_eq]

/-- **Any other one** becomes a report on the visited file. -/
theorem toReport_of_not_isPlaced
    (h : ∀ file start length text, ¬ d.IsPlaced texts file start length text) (node : Path) :
    (d.toReport node fun p => (texts p).map .ofText) =
      Report.onNode node d.category d.code d.message := by
  cases hspan : d.span? with
  | none =>
      rw [toReport, hspan]
      rfl
  | some span =>
      obtain ⟨file, start, length⟩ := span
      obtain ⟨hf, hs, hl, hpos⟩ := of_span?_eq_some hspan
      have htext : texts file = none := by
        refine Option.eq_none_iff_forall_ne_some.mpr fun text ht => ?_
        exact h file start length text ⟨hf, hs, hl, hpos, ht⟩
      rw [toReport, hspan]
      simp [htext]

end Diagnostic

/-- The largest offset in a text. -/
def offsetMax : Nat := 18446744073709551615

/-- **Diagnostics become ranges or reports on the visited file**, and lose nothing.

* Category, code and message are those of the diagnostic.
* The report has a range if the diagnostic is placed in a file whose text is known: the span of
  its bytes, in that file.  The number of the last byte is no larger than an offset can be.
* Any other diagnostic becomes a report on the visited file as a whole. -/
theorem toReport_exact (d : Diagnostic) (node : Path) (texts : Path → Option Text) :
    let r := d.toReport node fun p => (texts p).map .ofText
    (r.category = d.category ∧ r.code = d.code ∧ r.message = d.message) ∧
      ((∃ first last, r.location = .range first last) ↔
        ∃ file start length text, d.IsPlaced texts file start length text) ∧
      (∀ file start length text, d.IsPlaced texts file start length text →
        (start ≤ wordMax → length ≤ wordMax → start + length ≤ offsetMax) ∧
        r.file = file ∧ ∃ first last, r.location = .range first last ∧
          IsSpan text start (start + length) first last) ∧
      ((¬ ∃ file start length text, d.IsPlaced texts file start length text) →
        r.file = node ∧ r.location = .node node) := by
  intro r
  have placed : ∀ file start length text, d.IsPlaced texts file start length text →
      r.file = file ∧ ∃ first last, r.location = .range first last ∧
        IsSpan text start (start + length) first last := by
    intro file start length text h
    have hr : r = _ := Diagnostic.toReport_of_isPlaced h node
    rw [hr]
    exact ⟨rfl, _, _, rfl, isSpan_position text (Nat.le_add_right start length)⟩
  have unplaced : (¬ ∃ file start length text, d.IsPlaced texts file start length text) →
      r.file = node ∧ r.location = .node node := by
    intro h
    have hr : r = _ := Diagnostic.toReport_of_not_isPlaced (fun file start length text hp =>
      h ⟨file, start, length, text, hp⟩) node
    rw [hr]
    exact ⟨rfl, rfl⟩
  refine ⟨d.says_toReport node _,
    ⟨fun ⟨first, last, hrange⟩ => ?_, fun ⟨file, start, length, text, h⟩ => ?_⟩,
    fun file start length text h => ⟨fun hs hl => ?_, placed file start length text h⟩, unplaced⟩
  · by_contra h
    rw [(unplaced h).2] at hrange
    cases hrange
  · obtain ⟨-, first, last, hrange, -⟩ := placed file start length text h
    exact ⟨first, last, hrange⟩
  · simp only [wordMax, offsetMax] at hs hl ⊢
    omega

/-- Some bytes of a file that is read, and none of them. -/
theorem toReport_accented :
    let file := Path.ofString "/p/a.ts"
    let text : Text := "let\nx = './é';".toList
    let texts : Path → Option Text := fun p => if p = file then some text else none
    let d := Diagnostic.located .error 2307 "missing" file 4 9
    let bare := Diagnostic.located .error 2307 "missing" file 4 0
    let report (d : Diagnostic) := d.toReport file fun p => (texts p).map .ofText
    (d.IsPlaced texts file 4 9 text ∧ 4 ≤ wordMax ∧ 9 ≤ wordMax ∧
        ¬ ∃ file start length text, bare.IsPlaced texts file start length text) ∧
      4 + 9 ≤ offsetMax ∧
      (∃ first last, (report d).location = .range first last ∧ IsSpan text 4 13 first last) ∧
      (report bare).location = .node file := by
  intro file text texts d bare report
  have hplaced : d.IsPlaced texts file 4 9 text :=
    ⟨rfl, rfl, rfl, by decide, if_pos rfl⟩
  have hbare : ¬ ∃ file start length text, bare.IsPlaced texts file start length text := by
    rintro ⟨file, start, length, text, h⟩
    have hlength : some 0 = some length := h.length_eq
    cases hlength
    exact Nat.lt_irrefl 0 h.length_pos
  have hstart : 4 ≤ wordMax := by decide
  have hlength : 9 ≤ wordMax := by decide
  obtain ⟨-, -, hrange, -⟩ := toReport_exact d file texts
  obtain ⟨hsum, -, hspan⟩ := hrange file 4 9 text hplaced
  obtain ⟨-, -, -, hnode⟩ := toReport_exact bare file texts
  exact ⟨⟨hplaced, hstart, hlength, hbare⟩, hsum hstart hlength, hspan, (hnode hbare).2⟩

/-- **The ends of a range are not in order** in any text: behind `2^32 - 2` line feeds, a
diagnostic on the next line feed begins behind its end. -/
theorem toReport_crowded :
    let file := Path.ofString "/p/a.ts"
    let text := Text.crowded (wordMax - 1)
    let texts : Path → Option Text := fun p => if p = file then some text else none
    let d := Diagnostic.located .error 2307 "missing" file wordMax 1
    d.IsPlaced texts file wordMax 1 text ∧
      ∃ first last, (d.toReport file fun p => (texts p).map .ofText).location = .range first last ∧
        first = ⟨wordMax, 1⟩ ∧ last = ⟨wordMax, 0⟩ ∧ ¬ first ≤ last := by
  intro file text texts d
  have hplaced : d.IsPlaced texts file wordMax 1 text :=
    ⟨rfl, rfl, rfl, Nat.one_pos, if_pos rfl⟩
  obtain ⟨hfirst, hlast⟩ :=
    LineTable.position_of_crowded (n := wordMax - 1) (Nat.sub_add_cancel (by decide))
  refine ⟨hplaced, _, _, congrArg Report.location (Diagnostic.toReport_of_isPlaced hplaced file),
    hfirst, hlast, ?_⟩
  rw [hfirst, hlast]
  exact Position.not_le_of_column_lt Nat.one_pos

end ImportLint
