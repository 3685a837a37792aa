import ImportLint.Proofs.Text.Offsets
import ImportLint.Proofs.Text.Parts
import ImportLint.Report.Position

/-!
# Positions — lines and columns of an offset

The position of an offset is told by the text before it: its line feeds, and the characters
behind the last of them.  More text before a place is a later position, so the order of offsets
is the order of positions, and a position tells its boundary.

* `Text.endPlace`, `Text.placeAt`: the line and the column where a text ends, and those of an
  offset, however large they are.
* `LineTable.position?`: the position, found in steps that can fail.
* `position_eq`, `position?_eq_some`: no step fails, and what is found is the place of the offset.
* `endPlace_lt`: more text ends at a later place.
* `Position.capped_le_iff`: what is left of the order when numbers are cut down to the largest one
  that can be written.
* `position_exact`: the table of positions of a text.
* `position_crowded`: two offsets whose positions are in the other order.
-/

namespace ImportLint

/-- The order of positions: by line, and within a line by column. -/
instance : LE Position where
  le p q := p.line < q.line ∨ p.line = q.line ∧ p.column ≤ q.column

instance : LT Position where
  lt p q := p.line < q.line ∨ p.line = q.line ∧ p.column < q.column

namespace Position

variable {p q : Position}

theorem le_iff : p ≤ q ↔ p.line < q.line ∨ p.line = q.line ∧ p.column ≤ q.column := Iff.rfl

theorem le_refl (p : Position) : p ≤ p := Or.inr ⟨rfl, Nat.le_refl _⟩

theorem le_of_lt (h : p < q) : p ≤ q := h.imp_right fun ⟨hl, hc⟩ => ⟨hl, Nat.le_of_lt hc⟩

theorem ne_of_lt (h : p < q) : p ≠ q := by
  rintro rfl
  rcases h with h | ⟨-, h⟩ <;> exact Nat.lt_irrefl _ h

theorem line_le_of_le (h : p ≤ q) : p.line ≤ q.line := by
  rcases h with h | ⟨h, -⟩
  · exact Nat.le_of_lt h
  · exact Nat.le_of_eq h

theorem not_le_of_column_lt {line c d : Nat} (h : d < c) :
    ¬ (⟨line, c⟩ : Position) ≤ ⟨line, d⟩ := by
  rintro (hline | ⟨-, hcolumn⟩)
  · exact Nat.lt_irrefl _ hline
  · exact Nat.not_le_of_lt h hcolumn

/-- The position as far as its numbers can be written. -/
def capped (p : Position) : Position := ⟨min p.line wordMax, min p.column wordMax⟩

/-- **Positions stay in order** if the line of the earlier one is below the largest number.  All
later lines share that number, and only their columns are compared. -/
theorem capped_le_iff (h : p ≤ q) :
    p.capped ≤ q.capped ↔ p.line < wordMax ∨ p.capped.column ≤ q.capped.column := by
  simp only [le_iff, capped] at h ⊢
  omega

theorem capped_eq_self (hl : p.line ≤ wordMax) (hc : p.column ≤ wordMax) : p.capped = p := by
  rw [capped, Nat.min_eq_left hl, Nat.min_eq_left hc]

end Position

/-! ### Where a text ends -/

namespace Text

/-- Where a text ends: its line, and the number of characters in that line. -/
def endPlace (t : Text) : Position := ⟨1 + t.count '\n', (t.rtakeWhile (· ≠ '\n')).length⟩

/-- The line and the column of an offset. -/
def placeAt (t : Text) (offset : Nat) : Position := (t.splitAtByte offset).1.endPlace

theorem endPlace_append_of_mem (t : Text) {more : Text} (h : '\n' ∈ more) :
    t.endPlace < (t ++ more).endPlace := by
  have hcount : 0 < more.count '\n' := List.count_pos_iff.mpr h
  refine Or.inl ?_
  simp only [endPlace, List.count_append]
  omega

theorem endPlace_append_of_not_mem (t : Text) {more : Text} (h : '\n' ∉ more) :
    (t ++ more).endPlace = ⟨t.endPlace.line, t.endPlace.column + more.length⟩ := by
  have hall : ∀ c ∈ more.reverse, decide (c ≠ '\n') = true := fun c hc =>
    decide_eq_true fun e => h (e ▸ List.mem_reverse.mp hc)
  simp only [endPlace, List.count_append, List.count_eq_zero_of_not_mem h, Nat.add_zero,
    List.rtakeWhile, List.reverse_append, List.takeWhile_append_of_pos hall, List.length_append,
    List.length_reverse]

/-- **More text** ends at a later place. -/
theorem endPlace_lt (t : Text) {more : Text} (h : more ≠ []) :
    t.endPlace < (t ++ more).endPlace := by
  by_cases hm : '\n' ∈ more
  · exact endPlace_append_of_mem t hm
  · rw [endPlace_append_of_not_mem t hm]
    exact Or.inr ⟨rfl, Nat.lt_add_of_pos_right (List.length_pos_iff.mpr h)⟩

theorem endPlace_mono {t u : Text} (h : t <+: u) : t.endPlace ≤ u.endPlace := by
  obtain ⟨more, rfl⟩ := h
  by_cases hm : more = []
  · rw [hm, List.append_nil]
    exact Position.le_refl _
  · exact Position.le_of_lt (endPlace_lt t hm)

theorem placeAt_le (t : Text) {m n : Nat} (h : m ≤ n) : t.placeAt m ≤ t.placeAt n :=
  endPlace_mono (splitAtByte_mono h t)

theorem eq_of_endPlace_eq {t u : Text} (h : t <+: u) (he : t.endPlace = u.endPlace) : t = u := by
  obtain ⟨more, rfl⟩ := h
  by_cases hm : more = []
  · rw [hm, List.append_nil]
  · exact absurd he (Position.ne_of_lt (endPlace_lt t hm))

/-- **Offsets of one place** are cut at one boundary. -/
theorem placeAt_eq_iff {t : Text} {m n : Nat} :
    t.placeAt m = t.placeAt n ↔
      (t.splitAtByte m).1.byteLength = (t.splitAtByte n).1.byteLength := by
  have cut : ∀ {m n}, m ≤ n → (t.placeAt m = t.placeAt n ↔
      (t.splitAtByte m).1.byteLength = (t.splitAtByte n).1.byteLength) := by
    intro m n hmn
    have hmono := splitAtByte_mono hmn t
    refine ⟨fun h => by rw [eq_of_endPlace_eq hmono h], fun h => ?_⟩
    rw [placeAt, placeAt, eq_of_byteLength_eq hmono h]
  rcases Nat.le_total m n with h | h
  · exact cut h
  · rw [eq_comm, cut h, eq_comm]

/-- A text up to its last line feed, and the line behind it. -/
theorem exists_lastLine (t : Text) :
    ∃ head line, t = head ++ line ∧ '\n' ∉ line ∧ line.length = t.endPlace.column ∧
      (head = [] ∨ ∃ h, head = h ++ ['\n']) := by
  refine ⟨t.rdropWhile (· ≠ '\n'), t.rtakeWhile (· ≠ '\n'),
    List.rdropWhile_append_rtakeWhile.symm, fun hm => ?_, rfl, ?_⟩
  · have := List.mem_rtakeWhile_imp hm
    simp at this
  · exact rdropWhile_cases '\n' t

theorem count_le_byteLength (c : Char) (t : Text) : t.count c ≤ t.byteLength :=
  Nat.le_trans List.count_le_length (length_le_byteLength t)

/-- Lines and columns are paid for in bytes. -/
theorem line_add_column_le (t : Text) :
    t.endPlace.line + t.endPlace.column ≤ 1 + t.byteLength := by
  obtain ⟨head, line, ht, hl, hcolumn, -⟩ := t.exists_lastLine
  have hline : t.endPlace.line = 1 + head.count '\n' := by
    rw [endPlace, ht, List.count_append, List.count_eq_zero_of_not_mem hl, Nat.add_zero]
  have hlength : t.byteLength = head.byteLength + line.byteLength := by rw [ht, byteLength_append]
  have hhead := count_le_byteLength '\n' head
  have hlast := length_le_byteLength line
  omega

/-- The numbers of a short text can be written. -/
theorem capped_endPlace {t : Text} (h : t.byteLength < wordMax) :
    t.endPlace.capped = t.endPlace := by
  have hle := t.line_add_column_le
  exact Position.capped_eq_self (by omega) (by omega)

/-! ### A crowded text -/

/-- Many empty lines. -/
def feeds (n : Nat) : Text := List.replicate n '\n'

/-- Many empty lines, and one more that holds a character. -/
def crowded (n : Nat) : Text := feeds n ++ ['a'] ++ ['\n']

theorem byteLength_feeds (n : Nat) : (feeds n).byteLength = n := by
  induction n with
  | zero => rfl
  | succ n ih =>
      rw [feeds, List.replicate_succ, byteLength_cons, ← feeds, ih, Nat.add_comm]
      rfl

/-- A line feed ends the line. -/
theorem endPlace_concat_feed (t : Text) : (t ++ ['\n']).endPlace = ⟨t.endPlace.line + 1, 0⟩ := by
  have hnone : List.rtakeWhile (· ≠ '\n') (t ++ ['\n']) = [] :=
    List.rtakeWhile_concat_neg (p := (· ≠ '\n')) t '\n' (by decide)
  rw [endPlace, endPlace, List.count_append, hnone]
  rfl

theorem endPlace_feeds (n : Nat) : (feeds n).endPlace = ⟨n + 1, 0⟩ := by
  induction n with
  | zero => rfl
  | succ n ih => rw [feeds, List.replicate_succ', ← feeds, endPlace_concat_feed, ih]

theorem placeAt_byteLength (before after : Text) :
    (before ++ after).placeAt before.byteLength = before.endPlace := by
  rw [placeAt, splitAtByte_append]

/-- The places behind the character, and behind the line feed that follows it. -/
theorem placeAt_crowded (n : Nat) :
    (crowded n).placeAt (n + 1) = ⟨n + 1, 1⟩ ∧ (crowded n).placeAt (n + 2) = ⟨n + 2, 0⟩ := by
  have hchar : (feeds n ++ ['a']).byteLength = n + 1 := by
    rw [byteLength_append, byteLength_feeds]
    rfl
  have hplace : (feeds n ++ ['a']).endPlace = ⟨n + 1, 1⟩ := by
    rw [endPlace_append_of_not_mem _ (by decide), endPlace_feeds]
    rfl
  have hall : (crowded n).byteLength = n + 2 := by
    rw [crowded, byteLength_append, hchar]
    rfl
  have hcut := placeAt_byteLength (feeds n ++ ['a']) ['\n']
  have hend := placeAt_byteLength (crowded n) []
  rw [hchar, hplace] at hcut
  rw [hall, List.append_nil] at hend
  refine ⟨hcut, hend.trans ?_⟩
  rw [crowded, endPlace_concat_feed, hplace]

end Text

/-! ### Where lines begin -/

theorem lineStartsFrom_append (offset : Nat) (a b : Text) :
    lineStartsFrom offset (a ++ b) =
      lineStartsFrom offset a ++ lineStartsFrom (offset + a.byteLength) b := by
  induction a generalizing offset with
  | nil => rfl
  | cons c cs ih =>
      by_cases h : c = '\n'
      · simp [lineStartsFrom, h, ih, Nat.add_assoc]
      · simp [lineStartsFrom, h, ih, Nat.add_assoc]

theorem length_lineStartsFrom (offset : Nat) (t : Text) :
    (lineStartsFrom offset t).length = t.count '\n' := by
  induction t generalizing offset with
  | nil => rfl
  | cons c cs ih =>
      by_cases h : c = '\n'
      · simp [lineStartsFrom, h, ih]
      · simp [lineStartsFrom, h, ih]

/-- Lines begin behind the offset of the text, and not behind its end. -/
theorem of_mem_lineStartsFrom {offset s : Nat} {t : Text} (h : s ∈ lineStartsFrom offset t) :
    offset < s ∧ s ≤ offset + t.byteLength := by
  induction t generalizing offset with
  | nil => cases h
  | cons c cs ih =>
      have hpos := c.utf8Size_pos
      rw [Text.byteLength_cons]
      by_cases hc : c = '\n'
      · simp only [lineStartsFrom, hc, if_true, List.mem_cons] at h
        rcases h with rfl | h
        · subst hc
          omega
        · have := ih h
          subst hc
          omega
      · simp only [lineStartsFrom, hc, if_false] at h
        have := ih h
        omega

/-- The last line of a text begins behind its last line feed. -/
theorem getLast?_lineStarts {head line : Text} (hl : '\n' ∉ line)
    (hh : head = [] ∨ ∃ h, head = h ++ ['\n']) :
    (0 :: lineStartsFrom 0 (head ++ line)).getLast? = some head.byteLength := by
  have hline : lineStartsFrom (0 + head.byteLength) line = [] := by
    rw [← List.length_eq_zero_iff, length_lineStartsFrom]
    exact List.count_eq_zero_of_not_mem hl
  rw [lineStartsFrom_append, hline, List.append_nil]
  rcases hh with rfl | ⟨h, rfl⟩
  · rfl
  · have hlast : lineStartsFrom (0 + h.byteLength) ['\n'] = [(h ++ ['\n']).byteLength] := by
      simp [lineStartsFrom]
    rw [lineStartsFrom_append, hlast, ← List.cons_append, List.getLast?_concat]

/-- The last line of a text, cut out of a longer one. -/
theorem Text.cut_lastLine (head line after : Text) :
    (splitAtByte ((head ++ line).byteLength - head.byteLength)
      (splitAtByte head.byteLength (head ++ line ++ after)).2).1 = line := by
  rw [List.append_assoc, splitAtByte_append, byteLength_append, Nat.add_sub_cancel_left,
    splitAtByte_append]

namespace LineTable

theorem lineCount_ofText (t : Text) : (ofText t).lineCount = 1 + t.count '\n' := by
  change (lineStartsFrom 0 t).length + 1 = _
  rw [length_lineStartsFrom, Nat.add_comm]

/-- The lines that have begun where a part of a text ends: those of the part, and no others. -/
theorem starts_append (before after : Text) :
    ∃ later, (ofText (before ++ after)).starts = (0 :: lineStartsFrom 0 before) ++ later ∧
      (∀ s ∈ 0 :: lineStartsFrom 0 before, s ≤ before.byteLength) ∧
      ∀ s ∈ later, before.byteLength < s := by
  refine ⟨lineStartsFrom (0 + before.byteLength) after, ?_, fun s hs => ?_, fun s hs => ?_⟩
  · change 0 :: lineStartsFrom 0 (before ++ after) = _
    rw [lineStartsFrom_append]
    rfl
  · rcases List.mem_cons.mp hs with rfl | hs
    · exact Nat.zero_le _
    · have := (of_mem_lineStartsFrom hs).2
      omega
  · have := (of_mem_lineStartsFrom hs).1
    omega

theorem takeWhile_starts (before after : Text) :
    (ofText (before ++ after)).starts.takeWhile (· ≤ before.byteLength) =
      0 :: lineStartsFrom 0 before := by
  obtain ⟨later, hstarts, hbegun, hlater⟩ := starts_append before after
  have hnone : later.takeWhile (· ≤ before.byteLength) = [] := by
    cases later with
    | nil => rfl
    | cons s later =>
        have hs := hlater s List.mem_cons_self
        rw [List.takeWhile_cons_of_neg (by simpa using hs)]
  rw [hstarts, List.takeWhile_append_of_pos (fun s hs => by simpa using hbegun s hs), hnone,
    List.append_nil]

@[simp] theorem text_ofText (t : Text) : (ofText t).text = t := rfl

/-- **The position of an offset** is its place, as far as the numbers can be written. -/
theorem position_eq (t : Text) (offset : Nat) :
    (ofText t).position offset = (t.placeAt offset).capped := by
  obtain ⟨before, after, hcut⟩ : ∃ before after, t.splitAtByte offset = (before, after) :=
    ⟨_, _, rfl⟩
  obtain rfl : before ++ after = t := by
    rw [← Text.splitAtByte_append_splitAtByte offset t, hcut]
  have hsnap : (ofText (before ++ after)).snap offset = before.byteLength := by
    rw [snap, text_ofText, hcut]
  have hlength : (0 :: lineStartsFrom 0 before).length = 1 + before.count '\n' := by
    rw [List.length_cons, length_lineStartsFrom, Nat.add_comm]
  obtain ⟨head, line, hbefore, hl, hcolumn, hh⟩ := before.exists_lastLine
  have hstart : (0 :: lineStartsFrom 0 before).getLastD 0 = head.byteLength := by
    rw [List.getLastD_eq_getLast?, hbefore, getLast?_lineStarts hl hh, Option.getD_some]
  have hline := Text.cut_lastLine head line after
  rw [← hbefore] at hline
  simp only [position, hsnap, takeWhile_starts, hstart, hlength, text_ofText, hline, hcolumn]
  rw [Text.placeAt, hcut, Text.endPlace, Position.capped]

/-! ### Steps that can fail -/

/-- How many elements satisfy a test; none if they are not the first ones. -/
def partitionPoint? (test : Nat → Bool) (xs : List Nat) : Option Nat :=
  if (xs.dropWhile test).all (!test ·) then some (xs.takeWhile test).length else none

/-- The position of an offset, found in steps that can fail: the way down to a boundary, the
search among the beginnings of lines, the look at the last one that has begun, and the cut of the
text between two offsets. -/
def position? (t : LineTable) (offset : Nat) : Option Position := do
  let offset ← t.text.boundaryDown? (min offset t.text.byteLength)
  let begun ← partitionPoint? (· ≤ offset) t.starts
  if begun = 0 then none
  else
    let start ← t.starts[begun - 1]?
    let line ← t.text.between? start offset
    some ⟨min (begun - 1 + 1) wordMax, min line.length wordMax⟩

theorem partitionPoint?_starts (before after : Text) :
    partitionPoint? (· ≤ before.byteLength) (ofText (before ++ after)).starts =
      some (1 + before.count '\n') := by
  obtain ⟨later, hstarts, hbegun, hlater⟩ := starts_append before after
  have hsplit := (ofText (before ++ after)).starts.takeWhile_append_dropWhile
    (p := fun s => decide (s ≤ before.byteLength))
  rw [takeWhile_starts, hstarts] at hsplit
  have hdrop := List.append_cancel_left hsplit
  have hall : later.all (fun s => !decide (s ≤ before.byteLength)) = true := by
    simpa using hlater
  rw [partitionPoint?, takeWhile_starts, hstarts, hdrop, if_pos hall, List.length_cons,
    length_lineStartsFrom, Nat.add_comm]

/-- **No step fails.** -/
theorem position?_eq_some (t : Text) (offset : Nat) :
    (ofText t).position? offset = some ((ofText t).position offset) := by
  have hgreatest := Text.isGreatest_splitAtByte offset t
  rw [← Text.setOf_boundary_le_min] at hgreatest
  have hdown := Text.boundaryDown?_eq_some hgreatest
  obtain ⟨before, after, hcut⟩ : ∃ before after, t.splitAtByte offset = (before, after) :=
    ⟨_, _, rfl⟩
  obtain rfl : before ++ after = t := by
    rw [← Text.splitAtByte_append_splitAtByte offset t, hcut]
  rw [hcut] at hdown
  obtain ⟨head, line, hbefore, hl, hcolumn, hh⟩ := before.exists_lastLine
  have hstart : (ofText (before ++ after)).starts[before.count '\n']? = some head.byteLength := by
    obtain ⟨later, hstarts, -, -⟩ := starts_append before after
    have hlength : (0 :: lineStartsFrom 0 before).length - 1 = before.count '\n' := by
      rw [List.length_cons, Nat.add_sub_cancel, length_lineStartsFrom]
    rw [hstarts, ← hlength, List.getElem?_append_left (by simp), ← List.getLast?_eq_getElem?,
      hbefore, getLast?_lineStarts hl hh]
  have hline : Text.between? (before ++ after) head.byteLength before.byteLength = some line := by
    rw [hbefore, List.append_assoc, Text.byteLength_append, Text.between?_append]
  have hbegun : 1 + before.count '\n' - 1 = before.count '\n' := Nat.add_sub_cancel_left _ _
  simp only [position?, text_ofText, hdown, partitionPoint?_starts, Option.bind_eq_bind,
    Option.bind_some, hbegun, hstart, hline]
  rw [if_neg (by omega), position_eq, Text.placeAt, hcut, Text.endPlace, Position.capped, hcolumn,
    Nat.add_comm 1]
  rfl

/-! ### Offsets in order -/

theorem line_position_le (t : Text) {m n : Nat} (h : m ≤ n) :
    ((ofText t).position m).line ≤ ((ofText t).position n).line := by
  have hline := Position.line_le_of_le (Text.placeAt_le t h)
  rw [position_eq, position_eq]
  simp only [Position.capped]
  omega

/-- **Later offsets have later positions**, unless both are in lines whose numbers cannot be told
apart and the later one has the smaller column. -/
theorem position_le_iff (t : Text) {m n : Nat} (h : m ≤ n) :
    (ofText t).position m ≤ (ofText t).position n ↔
      (t.placeAt m).line < wordMax ∨
        ((ofText t).position m).column ≤ ((ofText t).position n).column := by
  rw [position_eq, position_eq]
  exact Position.capped_le_iff (Text.placeAt_le t h)

/-- A small offset is in a line below the largest number, or at its beginning. -/
theorem position_le {t : Text} {m n : Nat} (h : m ≤ n)
    (hw : m < wordMax ∨ (t.placeAt n).line ≤ wordMax) :
    (ofText t).position m ≤ (ofText t).position n := by
  have hplace := Text.placeAt_le t h
  have hsum : (t.placeAt m).line + (t.placeAt m).column ≤ 1 + m :=
    Nat.le_trans (t.splitAtByte m).1.line_add_column_le
      (Nat.add_le_add_left (Text.byteLength_splitAtByte_le m t) 1)
  rw [position_le_iff t h, position_eq, position_eq]
  simp only [Position.le_iff, Position.capped] at hplace ⊢
  omega

/-- In a short text all numbers can be written. -/
theorem position_eq_placeAt {t : Text} (h : t.byteLength < wordMax) (n : Nat) :
    (ofText t).position n = t.placeAt n := by
  have hle := (Text.isBoundary_splitAtByte n t).le_byteLength
  rw [position_eq]
  exact Text.capped_endPlace (Nat.lt_of_le_of_lt hle h)

/-- **Positions are exact, and tell the order of offsets.**

* There is one line more than there are line feeds.
* The position of any offset is found without fail.  It is the place where the text up to the
  greatest boundary not above the offset ends: one line more than it has line feeds, and the
  characters behind the last of them, each number as far as it can be written.
* Later offsets have later places, in lines that are not earlier.  Their positions are later too
  if and only if the line of the first offset is below the largest number that can be written, or
  the columns of the positions are in order: all later lines share the largest number.  So it is if
  the first offset is below that number, or the line of the other one is not above it.
* In a text that is short enough for all its numbers, positions are in the order of offsets, and a
  position tells its boundary. -/
theorem position_exact (t : Text) :
    (ofText t).lineCount = 1 + t.count '\n' ∧
      (∀ offset, ∃ before after, t = before ++ after ∧
        IsGreatest {b | t.IsBoundary b ∧ b ≤ min offset t.byteLength} before.byteLength ∧
        t.placeAt offset = ⟨1 + before.count '\n', (before.rtakeWhile (· ≠ '\n')).length⟩ ∧
        (ofText t).position? offset = some ((ofText t).position offset) ∧
        (ofText t).position offset =
          ⟨min (t.placeAt offset).line wordMax, min (t.placeAt offset).column wordMax⟩) ∧
      (∀ m n, m ≤ n → t.placeAt m ≤ t.placeAt n ∧
        ((ofText t).position m).line ≤ ((ofText t).position n).line ∧
        ((ofText t).position m ≤ (ofText t).position n ↔
          (t.placeAt m).line < wordMax ∨
            ((ofText t).position m).column ≤ ((ofText t).position n).column) ∧
        (m < wordMax ∨ (t.placeAt n).line ≤ wordMax →
          (ofText t).position m ≤ (ofText t).position n)) ∧
      (t.byteLength < wordMax →
        (∀ m n, m ≤ n → (ofText t).position m ≤ (ofText t).position n) ∧
        ∀ b c, t.IsBoundary b → t.IsBoundary c → b ≠ c →
          (ofText t).position b ≠ (ofText t).position c) := by
  refine ⟨lineCount_ofText t, fun offset => ?_, fun m n hmn => ?_, fun ht => ⟨?_, ?_⟩⟩
  · have hgreatest := Text.isGreatest_splitAtByte offset t
    rw [← Text.setOf_boundary_le_min] at hgreatest
    exact ⟨_, _, (Text.splitAtByte_append_splitAtByte offset t).symm, hgreatest, rfl,
      position?_eq_some t offset, position_eq t offset⟩
  · exact ⟨Text.placeAt_le t hmn, line_position_le t hmn, position_le_iff t hmn, position_le hmn⟩
  · intro m n hmn
    rw [position_eq_placeAt ht, position_eq_placeAt ht]
    exact Text.placeAt_le t hmn
  · intro b c hb hc hne he
    rw [position_eq_placeAt ht, position_eq_placeAt ht, Text.placeAt_eq_iff,
      Text.isBoundary_iff.mp hb, Text.isBoundary_iff.mp hc] at he
    exact hne he

/-- A text with an offset inside of a character and one past the end. -/
theorem position_twoLines :
    let t : Text := ['é', '\n', 'x']
    (t.byteLength < wordMax ∧ 1 < wordMax) ∧
      (ofText t).position 1 ≤ (ofText t).position 9 ∧
      (t.IsBoundary 2 ∧ t.IsBoundary 3) ∧ (ofText t).position 2 ≠ (ofText t).position 3 := by
  intro t
  have hshort : t.byteLength < wordMax := by decide
  have hword : 1 < wordMax := by decide
  have hboundaries : t.IsBoundary 2 ∧ t.IsBoundary 3 := by decide
  obtain ⟨-, -, hle, hne⟩ := position_exact t
  exact ⟨⟨hshort, hword⟩, (hle 1 9 (by decide)).2.2.2 (Or.inl hword), hboundaries,
    (hne hshort).2 2 3 hboundaries.1 hboundaries.2 (by decide)⟩

/-- The positions in a text with so many lines that the last two share their number. -/
theorem position_of_crowded {n : Nat} (h : n + 1 = wordMax) :
    (ofText (Text.crowded n)).position wordMax = ⟨wordMax, 1⟩ ∧
      (ofText (Text.crowded n)).position (wordMax + 1) = ⟨wordMax, 0⟩ := by
  obtain ⟨hchar, hfeed⟩ := Text.placeAt_crowded n
  have hlast : wordMax + 1 = n + 2 := by rw [← h]
  have hone : 1 ≤ wordMax := by decide
  constructor
  · rw [position_eq, ← h, hchar, Position.capped, h, Nat.min_self, Nat.min_eq_left hone]
  · rw [position_eq, hlast, hfeed, Position.capped, ← hlast,
      Nat.min_eq_right (Nat.le_succ wordMax), Nat.min_eq_left (Nat.zero_le wordMax)]

/-- **Positions are not in the order of offsets** in any text: behind `2^32 - 2` line feeds, the
offset of the next line feed and that of the end are in lines of one number. -/
theorem position_crowded :
    let t := Text.crowded (wordMax - 1)
    wordMax ≤ wordMax + 1 ∧
      (ofText t).position wordMax = ⟨wordMax, 1⟩ ∧
      (ofText t).position (wordMax + 1) = ⟨wordMax, 0⟩ ∧
      ¬ (ofText t).position wordMax ≤ (ofText t).position (wordMax + 1) := by
  intro t
  have hword : wordMax - 1 + 1 = wordMax := Nat.sub_add_cancel (by decide)
  obtain ⟨hchar, hend⟩ := position_of_crowded hword
  refine ⟨Nat.le_succ _, hchar, hend, ?_⟩
  rw [hchar, hend]
  exact Position.not_le_of_column_lt Nat.one_pos

end LineTable

end ImportLint
