import ImportLint.Files.Memory
import ImportLint.Proofs.Files.Snapshots
import ImportLint.Proofs.Text.Offsets

/-!
# Snapshots — parts of a text

A part of a file is asked for by any two offsets.  They are moved into the text and outwards to
character boundaries, so that every part can be cut: nothing that was asked for is lost, and less
than a character is added at each end.

* `Text.IsWidened`: where a part begins and where it ends; `Text.exists_isWidened`.
* `Text.slice?`, `Text.slice?_eq_some`: the part, found in steps that can fail, and none does.
* `Text.slice_append_slice`: parts that meet at a boundary are one part.
* `getText_widened`: the answers of a snapshot.
-/

namespace ImportLint

namespace Text

/-! ### One part -/

/-- The ends of the part of a text that is told by two offsets. -/
structure IsWidened (t : Text) (start stop first last : Nat) : Prop where
  /-- It begins at the greatest boundary not above the first offset. -/
  first_isGreatest : IsGreatest {b | t.IsBoundary b ∧ b ≤ min start t.byteLength} first
  /-- It ends at the least boundary not below both offsets. -/
  last_isLeast : IsLeast
    {b | t.IsBoundary b ∧ max (min start t.byteLength) (min stop t.byteLength) ≤ b} last
  first_near : min start t.byteLength < first + 4
  last_near : last < max (min start t.byteLength) (min stop t.byteLength) + 4

/-- **Where a part begins and ends.** -/
theorem exists_isWidened (t : Text) (start stop : Nat) :
    ∃ before part after, t = before ++ (part ++ after) ∧ t.slice start stop = part ∧
      t.IsWidened start stop before.byteLength (before.byteLength + part.byteLength) := by
  generalize hlow : min start t.byteLength = low
  generalize hhigh : max low (min stop t.byteLength) = high
  have hstop : min (max stop low) t.byteLength = high := by omega
  obtain ⟨before, rest, hcut⟩ : ∃ before rest, t.splitAtByte low = (before, rest) := ⟨_, _, rfl⟩
  obtain ⟨part, after, hcut'⟩ :
      ∃ part after, rest.splitFromByte (high - before.byteLength) = (part, after) := ⟨_, _, rfl⟩
  have hgreatest := isGreatest_splitAtByte low t
  have hnear := lt_byteLength_splitAtByte_add (t := t) (n := low) (by omega)
  have ht := splitAtByte_append_splitAtByte low t
  simp only [hcut] at hgreatest hnear ht
  have hle : before.byteLength ≤ low := hgreatest.1.2
  have hlength := congrArg byteLength ht
  rw [byteLength_append] at hlength
  have hleast := isLeast_splitFromByte (t := rest) (n := high - before.byteLength) (by omega)
  have hnear' := byteLength_splitFromByte_lt (high - before.byteLength) rest
  have hrest := splitFromByte_append_splitFromByte (high - before.byteLength) rest
  simp only [hcut'] at hleast hnear' hrest
  have hpart : high - before.byteLength ≤ part.byteLength := hleast.1.2
  obtain rfl : part ++ after = rest := hrest
  obtain rfl : before ++ (part ++ after) = t := ht
  refine ⟨before, part, after, rfl, ?_, ?_⟩
  · simp only [slice, hlow, hcut, hstop, hcut']
  · refine ⟨hlow ▸ hgreatest, ?_, hlow ▸ hnear, ?_⟩
    · rw [hlow, hhigh]
      refine ⟨⟨?_, by omega⟩, fun b ⟨hb, hbhigh⟩ => ?_⟩
      · rw [← byteLength_append, ← List.append_assoc]
        exact isBoundary_append _ _
      · -- a boundary that is high enough is one of the rest
        have hb' := (isBoundary_append_iff (by omega)).mp hb
        have := hleast.2 ⟨hb', by omega⟩
        omega
    · rw [hlow, hhigh]
      omega

/-! ### Steps that can fail -/

/-- An offset moved between two bounds; none if the bounds are not in order. -/
def clamp? (n low high : Nat) : Option Nat :=
  if low ≤ high then some (min (max n low) high) else none

/-- The part between two offsets, found in steps that can fail: moving the second offset between
two bounds, the ways to a boundary downwards and upwards, and the cut of the text. -/
def slice? (t : Text) (start stop : Nat) : Option Text := do
  let start := min start t.byteLength
  let stop ← clamp? stop start t.byteLength
  let first ← t.boundaryDown? start
  let last ← t.boundaryUp? stop
  t.between? first last

/-- **No step fails.** -/
theorem slice?_eq_some (t : Text) (start stop : Nat) :
    t.slice? start stop = some (t.slice start stop) := by
  obtain ⟨before, part, after, ht, hslice, hends⟩ := t.exists_isWidened start stop
  have hclamp : clamp? stop (min start t.byteLength) t.byteLength =
      some (max (min start t.byteLength) (min stop t.byteLength)) := by
    rw [clamp?, if_pos (Nat.min_le_right _ _)]
    congr 1
    omega
  have hbetween := between?_append before part after
  rw [← ht] at hbetween
  simp only [slice?, hclamp, Option.bind_eq_bind, Option.bind_some,
    boundaryDown?_eq_some hends.first_isGreatest, boundaryUp?_eq_some hends.last_isLeast,
    hbetween, hslice]

/-! ### Parts that meet -/

/-- The part between two boundaries is what stands between them. -/
theorem slice_append (before part after : Text) :
    slice (before ++ (part ++ after)) before.byteLength (before.byteLength + part.byteLength) =
      part := by
  have hlength : byteLength (before ++ (part ++ after)) =
      before.byteLength + (part.byteLength + after.byteLength) := by simp
  have hstart : min before.byteLength (byteLength (before ++ (part ++ after))) =
      before.byteLength := by omega
  have hstop : min (max (before.byteLength + part.byteLength) before.byteLength)
      (byteLength (before ++ (part ++ after))) - before.byteLength = part.byteLength := by omega
  simp only [slice, hstart, splitAtByte_append, hstop, splitFromByte_append]

/-- **Parts that meet at a boundary** are one part. -/
theorem slice_append_slice {t : Text} {a b c : Nat} (ha : t.IsBoundary a) (hb : t.IsBoundary b)
    (hc : t.IsBoundary c) (hab : a ≤ b) (hbc : b ≤ c) :
    t.slice a b ++ t.slice b c = t.slice a c := by
  obtain ⟨x, y, rest, rfl, rfl, rfl⟩ := ha.exists_parts hb hab
  rw [← List.append_assoc, isBoundary_append_iff (by rwa [byteLength_append])] at hc
  obtain ⟨z, w, rfl, hz⟩ := hc
  obtain rfl : c = x.byteLength + (y.byteLength + z.byteLength) := by
    rw [byteLength_append] at hz
    omega
  have hfirst := slice_append x y (z ++ w)
  have hsecond := slice_append (x ++ y) z w
  have hboth := slice_append x (y ++ z) w
  simp only [byteLength_append, List.append_assoc, Nat.add_assoc] at hfirst hsecond hboth
  rw [hfirst, hsecond, hboth]

end Text

/-! ### The answers of a snapshot -/

namespace SnapshotTable

/-- A text that was told once is told again. -/
theorem fst_text_text (s : SnapshotTable) (view : FileView) (id : Nat) :
    ((s.text view id).2.text view id).1 = (s.text view id).1 := by
  cases hloaded : (s.snapshot id).loaded with
  | some t => rw [text_of_loaded hloaded, text_of_loaded hloaded]
  | none =>
      cases hread : view.read (s.snapshot id).path with
      | error f =>
          have htext : (s.text view id).1 = .error (.fileRead (s.snapshot id).path f) := by
            rw [text_of_unloaded hloaded, hread]
          rw [snd_text_of_error htext]
      | ok t =>
          have htext : s.text view id = (.ok t, s.load id (some t)) := by
            rw [text_of_unloaded hloaded, hread]
          rw [htext]
          by_cases hid : id < s.made.size
          · have hkept : ((s.load id (some t)).snapshot id).loaded = some t := by
              rw [snapshot_load hid, if_pos rfl]
            rw [text_of_loaded hkept]
          · rw [load_of_not_lt hid, htext]

/-- **Parts of a text** are told without fail, whatever the offsets are.

* A text that cannot be read has no parts, and the answer says why.
* Of any other text a part is told for any two offsets.  It begins at the greatest boundary that
  is not above the first offset and ends at the least one that is not below both of them, where
  offsets past the end stand for the end.  So it holds all bytes between the offsets, and less
  than four more at each end.
* Parts that meet at a boundary are one part. -/
theorem getText_widened (s : SnapshotTable) (view : FileView) (id : Nat) :
    match (s.text view id).1 with
    | .error e => ∀ start stop, (s.getText view id start stop).1 = .error e
    | .ok t =>
      (∀ start stop, ∃ first last part, t.IsWidened start stop first last ∧
        t.between? first last = some part ∧ t.slice? start stop = some part ∧
        (s.getText view id start stop).1 = .ok part) ∧
      ∀ a b c, t.IsBoundary a → t.IsBoundary b → t.IsBoundary c → a ≤ b → b ≤ c →
        ∃ part more, (s.getText view id a b).1 = .ok part ∧
          ((s.getText view id a b).2.getText view id b c).1 = .ok more ∧
          (s.getText view id a c).1 = .ok (part ++ more) := by
  have hget : ∀ start stop, (s.getText view id start stop).1 =
      (s.text view id).1.map fun t => t.slice start stop := fun _ _ => rfl
  cases htext : (s.text view id).1 with
  | error e =>
      intro start stop
      rw [hget, htext]
      rfl
  | ok t =>
      refine ⟨fun start stop => ?_, fun a b c ha hb hc hab hbc => ?_⟩
      · obtain ⟨before, part, after, ht, hslice, hends⟩ := t.exists_isWidened start stop
        refine ⟨_, _, part, hends, ?_, ?_, ?_⟩
        · rw [ht]
          exact Text.between?_append before part after
        · rw [Text.slice?_eq_some, hslice]
        · rw [hget, htext, ← hslice]
          rfl
      · refine ⟨t.slice a b, t.slice b c, by rw [hget, htext]; rfl, ?_, ?_⟩
        · change (((s.text view id).2.text view id).1.map fun t => t.slice b c) = _
          rw [fst_text_text, htext]
          rfl
        · rw [hget, htext, Text.slice_append_slice ha hb hc hab hbc]
          rfl

/-- A text with a character of two bytes. -/
def accented : MemoryTree := .ofFiles [(.ofString "/p/a.ts", "aé b".toList)]

theorem getText_accented :
    let s := (({} : SnapshotTable).get accented.view (.ofString "/p/a.ts")).2
    let t : Text := "aé b".toList
    (t.IsBoundary 1 ∧ t.IsBoundary 3 ∧ t.IsBoundary 4 ∧ 1 ≤ 3 ∧ 3 ≤ 4) ∧
      ∃ part more, (s.getText accented.view 0 1 3).1 = .ok part ∧
        ((s.getText accented.view 0 1 3).2.getText accented.view 0 3 4).1 = .ok more ∧
        (s.getText accented.view 0 1 4).1 = .ok (part ++ more) := by
  intro s t
  have htext : (s.text accented.view 0).1 = .ok t := by rfl
  have hparts := getText_widened s accented.view 0
  rw [htext] at hparts
  have hboundaries : t.IsBoundary 1 ∧ t.IsBoundary 3 ∧ t.IsBoundary 4 := by decide
  obtain ⟨h1, h3, h4⟩ := hboundaries
  exact ⟨⟨h1, h3, h4, by decide, by decide⟩, hparts.2 1 3 4 h1 h3 h4 (by decide) (by decide)⟩

/-- Offsets inside of a character, past the end and in the wrong order. -/
example :
    let t : Text := "aé b".toList
    t.slice 2 2 = ['é'] ∧ t.slice 3 100 = [' ', 'b'] ∧ t.slice 2 0 = ['é'] ∧ t.slice 9 1 = [] := by
  decide

end SnapshotTable

end ImportLint
