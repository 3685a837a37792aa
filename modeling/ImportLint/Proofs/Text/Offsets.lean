import Mathlib.Order.Bounds.Basic
import ImportLint.Text

/-!
# Text — offsets and character boundaries

An offset counts the bytes before a place; between two characters it is a boundary.  Cutting a
text at an offset that is none moves to the next boundary, downwards or upwards.

* `Text.IsBoundary`: the sizes of the leading parts of a text.
* `isGreatest_splitAtByte`, `isLeast_splitFromByte`: where a text is cut.
* `Text.boundaryDown?`, `Text.boundaryUp?`: the same boundaries, looked for one byte after the
  other.
* `Text.between?`: a part of a text, told by boundaries only.
* `Text.offsetOf?`, `Text.around?`: the first place of a character, and the parts on its sides.
-/

namespace ImportLint.Text

variable {t : Text} {n : Nat}

/-! ### Sizes -/

@[simp] theorem byteLength_nil : byteLength [] = 0 := rfl

@[simp] theorem byteLength_cons (c : Char) (cs : Text) :
    byteLength (c :: cs) = c.utf8Size + byteLength cs := rfl

@[simp] theorem byteLength_append (a b : Text) :
    byteLength (a ++ b) = byteLength a + byteLength b := by
  induction a with
  | nil => simp
  | cons c cs ih => simp [ih, Nat.add_assoc]

theorem length_le_byteLength (t : Text) : t.length ≤ t.byteLength := by
  induction t with
  | nil => exact Nat.le_refl 0
  | cons c cs ih =>
      have hc := c.utf8Size_pos
      simp only [List.length_cons, byteLength_cons]
      omega

theorem byteLength_eq_zero : t.byteLength = 0 ↔ t = [] := by
  refine ⟨fun h => ?_, fun h => by rw [h]; rfl⟩
  have hlen := length_le_byteLength t
  exact List.length_eq_zero_iff.mp (by omega)

/-- Leading parts of one size are one part. -/
theorem eq_of_byteLength_eq {a b : Text} (h : a <+: b) (hl : a.byteLength = b.byteLength) :
    a = b := by
  obtain ⟨more, rfl⟩ := h
  rw [byteLength_append] at hl
  have hmore : byteLength more = 0 := by omega
  rw [byteLength_eq_zero.mp hmore, List.append_nil]

/-! ### Boundaries -/

/-- A character boundary: the size of a leading part. -/
def IsBoundary (t : Text) (n : Nat) : Prop :=
  ∃ before after, t = before ++ after ∧ before.byteLength = n

theorem isBoundary_append (before after : Text) :
    IsBoundary (before ++ after) before.byteLength :=
  ⟨before, after, rfl, rfl⟩

theorem IsBoundary.le_byteLength (h : t.IsBoundary n) : n ≤ t.byteLength := by
  obtain ⟨before, after, rfl, rfl⟩ := h
  rw [byteLength_append]
  exact Nat.le_add_right _ _

/-! ### Cutting downwards -/

theorem splitAtByte_append_splitAtByte (n : Nat) (t : Text) :
    (t.splitAtByte n).1 ++ (t.splitAtByte n).2 = t := by
  induction t generalizing n with
  | nil => rfl
  | cons c cs ih =>
      by_cases h : c.utf8Size ≤ n
      · simp [splitAtByte, h, ih]
      · simp [splitAtByte, h]

theorem byteLength_splitAtByte_le (n : Nat) (t : Text) :
    (t.splitAtByte n).1.byteLength ≤ n := by
  induction t generalizing n with
  | nil => exact Nat.zero_le n
  | cons c cs ih =>
      by_cases h : c.utf8Size ≤ n
      · have := ih (n - c.utf8Size)
        simp only [splitAtByte, h, if_true, byteLength_cons]
        omega
      · simp [splitAtByte, h]

/-- A text is cut at any boundary. -/
theorem splitAtByte_append (before after : Text) :
    splitAtByte before.byteLength (before ++ after) = (before, after) := by
  induction before with
  | nil =>
      cases after with
      | nil => rfl
      | cons c cs =>
          have hc : ¬ c.utf8Size ≤ 0 := Nat.not_le_of_lt c.utf8Size_pos
          rw [List.nil_append, byteLength_nil, splitAtByte, if_neg hc]
  | cons c cs ih => simp [splitAtByte, ih]

theorem le_byteLength_splitAtByte {b : Nat} (hb : t.IsBoundary b) (h : b ≤ n) :
    b ≤ (t.splitAtByte n).1.byteLength := by
  obtain ⟨before, after, rfl, rfl⟩ := hb
  induction before generalizing n with
  | nil => exact Nat.zero_le _
  | cons c cs ih =>
      rw [byteLength_cons] at h
      have hc : c.utf8Size ≤ n := by omega
      have := ih (n := n - c.utf8Size) (by omega)
      simp only [List.cons_append, splitAtByte, hc, if_true, byteLength_cons]
      omega

theorem isBoundary_splitAtByte (n : Nat) (t : Text) :
    t.IsBoundary (t.splitAtByte n).1.byteLength :=
  ⟨_, _, (splitAtByte_append_splitAtByte n t).symm, rfl⟩

/-- **A text is cut at the greatest boundary** that is not above an offset. -/
theorem isGreatest_splitAtByte (n : Nat) (t : Text) :
    IsGreatest {b | t.IsBoundary b ∧ b ≤ n} (t.splitAtByte n).1.byteLength :=
  ⟨⟨isBoundary_splitAtByte n t, byteLength_splitAtByte_le n t⟩,
    fun _ hb => le_byteLength_splitAtByte hb.1 hb.2⟩

theorem isBoundary_iff : t.IsBoundary n ↔ (t.splitAtByte n).1.byteLength = n :=
  ⟨fun h => Nat.le_antisymm (byteLength_splitAtByte_le n t)
    (le_byteLength_splitAtByte h (Nat.le_refl n)), fun h => h ▸ isBoundary_splitAtByte n t⟩

theorem isBoundary_cons {c : Char} (h : c.utf8Size ≤ n) :
    IsBoundary (c :: t) n ↔ t.IsBoundary (n - c.utf8Size) := by
  rw [isBoundary_iff, isBoundary_iff]
  simp only [splitAtByte, h, if_true, byteLength_cons]
  omega

/-- Behind a leading part stand the boundaries of the rest. -/
theorem isBoundary_append_iff {before : Text} (h : before.byteLength ≤ n) :
    IsBoundary (before ++ t) n ↔ t.IsBoundary (n - before.byteLength) := by
  induction before generalizing n with
  | nil => rfl
  | cons c cs ih =>
      rw [byteLength_cons] at h ⊢
      have hc : c.utf8Size ≤ n := by omega
      rw [List.cons_append, isBoundary_cons hc, ih (by omega), Nat.sub_sub]

/-- Boundaries in order cut a text into three parts. -/
theorem IsBoundary.exists_parts {a b : Nat} (ha : t.IsBoundary a) (hb : t.IsBoundary b)
    (h : a ≤ b) : ∃ before part after, t = before ++ (part ++ after) ∧
      before.byteLength = a ∧ before.byteLength + part.byteLength = b := by
  obtain ⟨before, rest, rfl, rfl⟩ := ha
  obtain ⟨part, after, rfl, hpart⟩ := (isBoundary_append_iff h).mp hb
  exact ⟨before, part, after, rfl, rfl, by omega⟩

instance (t : Text) (n : Nat) : Decidable (t.IsBoundary n) :=
  decidable_of_iff _ isBoundary_iff.symm

/-- The end of a text is as far as an offset leads. -/
theorem setOf_boundary_le_min (n : Nat) (t : Text) :
    {b | t.IsBoundary b ∧ b ≤ min n t.byteLength} = {b | t.IsBoundary b ∧ b ≤ n} := by
  ext b
  refine ⟨fun ⟨hb, h⟩ => ⟨hb, ?_⟩, fun ⟨hb, h⟩ => ⟨hb, ?_⟩⟩
  · exact Nat.le_trans h (Nat.min_le_left _ _)
  · exact Nat.le_min.mpr ⟨h, hb.le_byteLength⟩

/-- Cutting downwards leads back by less than a character. -/
theorem lt_byteLength_splitAtByte_add (h : n ≤ t.byteLength) :
    n < (t.splitAtByte n).1.byteLength + 4 := by
  induction t generalizing n with
  | nil => simp_all
  | cons c cs ih =>
      rw [byteLength_cons] at h
      have hc4 := c.utf8Size_le_four
      by_cases hc : c.utf8Size ≤ n
      · have := ih (n := n - c.utf8Size) (by omega)
        simp only [splitAtByte, hc, if_true, byteLength_cons]
        omega
      · simp only [splitAtByte, hc, if_false, byteLength_nil]
        omega

/-- A later offset cuts a longer part off. -/
theorem splitAtByte_mono {m : Nat} (h : m ≤ n) (t : Text) :
    (t.splitAtByte m).1 <+: (t.splitAtByte n).1 := by
  induction t generalizing m n with
  | nil => exact List.nil_prefix
  | cons c cs ih =>
      by_cases hm : c.utf8Size ≤ m
      · have hn : c.utf8Size ≤ n := Nat.le_trans hm h
        simp only [splitAtByte, hm, hn, if_true]
        exact List.cons_prefix_cons.mpr ⟨rfl, ih (Nat.sub_le_sub_right h _)⟩
      · simp only [splitAtByte, hm, if_false]
        exact List.nil_prefix

/-! ### Cutting upwards -/

theorem splitFromByte_zero (t : Text) : (t.splitFromByte 0).1 = [] := by
  cases t <;> simp [splitFromByte]

theorem splitFromByte_append_splitFromByte (n : Nat) (t : Text) :
    (t.splitFromByte n).1 ++ (t.splitFromByte n).2 = t := by
  induction t generalizing n with
  | nil => rfl
  | cons c cs ih =>
      by_cases h : n = 0
      · simp [splitFromByte, h]
      · simp [splitFromByte, h, ih]

theorem splitFromByte_append (before after : Text) :
    (splitFromByte before.byteLength (before ++ after)).1 = before := by
  induction before with
  | nil => exact splitFromByte_zero after
  | cons c cs ih =>
      have hne : c.utf8Size + byteLength cs ≠ 0 :=
        Nat.ne_of_gt (Nat.add_pos_left c.utf8Size_pos _)
      rw [List.cons_append, byteLength_cons, splitFromByte, if_neg hne, Nat.add_sub_cancel_left]
      exact congrArg (c :: ·) ih

theorem le_byteLength_splitFromByte (h : n ≤ t.byteLength) :
    n ≤ (t.splitFromByte n).1.byteLength := by
  induction t generalizing n with
  | nil => exact h
  | cons c cs ih =>
      rw [byteLength_cons] at h
      by_cases hn : n = 0
      · omega
      · have := ih (n := n - c.utf8Size) (by omega)
        simp only [splitFromByte, hn, if_false, byteLength_cons]
        omega

theorem byteLength_splitFromByte_le {b : Nat} (hb : t.IsBoundary b) (h : n ≤ b) :
    (t.splitFromByte n).1.byteLength ≤ b := by
  obtain ⟨before, after, rfl, rfl⟩ := hb
  induction before generalizing n with
  | nil =>
      obtain rfl : n = 0 := Nat.le_zero.mp h
      rw [splitFromByte_zero, byteLength_nil]
  | cons c cs ih =>
      rw [byteLength_cons] at h
      by_cases hn : n = 0
      · simp [splitFromByte, hn]
      · have := ih (n := n - c.utf8Size) (by omega)
        simp only [List.cons_append, splitFromByte, hn, if_false, byteLength_cons]
        omega

/-- **A text is cut at the least boundary** that is not below an offset. -/
theorem isLeast_splitFromByte (h : n ≤ t.byteLength) :
    IsLeast {b | t.IsBoundary b ∧ n ≤ b} (t.splitFromByte n).1.byteLength :=
  ⟨⟨⟨_, _, (splitFromByte_append_splitFromByte n t).symm, rfl⟩, le_byteLength_splitFromByte h⟩,
    fun _ hb => byteLength_splitFromByte_le hb.1 hb.2⟩

/-- Cutting upwards leads on by less than a character. -/
theorem byteLength_splitFromByte_lt (n : Nat) (t : Text) :
    (t.splitFromByte n).1.byteLength < n + 4 := by
  induction t generalizing n with
  | nil => simp [splitFromByte]
  | cons c cs ih =>
      have hc4 := c.utf8Size_le_four
      by_cases hn : n = 0
      · simp [splitFromByte, hn]
      · have hrest := ih (n - c.utf8Size)
        simp only [splitFromByte, hn, if_false, byteLength_cons]
        by_cases hc : c.utf8Size ≤ n
        · omega
        · -- the first character is enough
          have hz : n - c.utf8Size = 0 := by omega
          rw [hz, splitFromByte_zero, byteLength_nil]
          omega

/-! ### Looking for a boundary -/

/-- Steps downwards from an offset until there is a boundary; none if zero is none either. -/
def boundaryDown? (t : Text) : Nat → Option Nat
  | 0 => if t.IsBoundary 0 then some 0 else none
  | n + 1 => if t.IsBoundary (n + 1) then some (n + 1) else boundaryDown? t n

/-- Steps upwards from an offset until there is a boundary; none if the text ends before. -/
def boundaryUp? (t : Text) (n : Nat) : Option Nat :=
  if t.IsBoundary n then some n
  else if n < t.byteLength then boundaryUp? t (n + 1)
  else none
termination_by t.byteLength - n

/-- **Steps downwards** end at the greatest boundary below. -/
theorem boundaryDown?_eq_some {a : Nat} (h : IsGreatest {b | t.IsBoundary b ∧ b ≤ n} a) :
    t.boundaryDown? n = some a := by
  induction n with
  | zero =>
      obtain rfl : a = 0 := Nat.le_zero.mp h.1.2
      rw [boundaryDown?, if_pos h.1.1]
  | succ n ih =>
      by_cases hn : t.IsBoundary (n + 1)
      · have ha : a = n + 1 := Nat.le_antisymm h.1.2 (h.2 ⟨hn, Nat.le_refl _⟩)
        rw [boundaryDown?, if_pos hn, ha]
      · have hne : a ≠ n + 1 := fun e => hn (e ▸ h.1.1)
        have hle : a ≤ n + 1 := h.1.2
        rw [boundaryDown?, if_neg hn]
        exact ih ⟨⟨h.1.1, by omega⟩, fun b hb => h.2 ⟨hb.1, Nat.le_succ_of_le hb.2⟩⟩

/-- **Steps upwards** end at the least boundary above. -/
theorem boundaryUp?_eq_some {a : Nat} (h : IsLeast {b | t.IsBoundary b ∧ n ≤ b} a) :
    t.boundaryUp? n = some a := by
  fun_induction boundaryUp? t n with
  | case1 n hn => rw [Nat.le_antisymm (h.2 ⟨hn, Nat.le_refl n⟩) h.1.2]
  | case2 n hn _ ih =>
      have hne : a ≠ n := fun e => hn (e ▸ h.1.1)
      have hle : n ≤ a := h.1.2
      exact ih ⟨⟨h.1.1, by omega⟩, fun b hb => h.2 ⟨hb.1, Nat.le_of_succ_le hb.2⟩⟩
  | case3 n hn hlen =>
      have hle : n ≤ a := h.1.2
      have ha := h.1.1.le_byteLength
      obtain rfl : n = a := by omega
      exact absurd h.1.1 hn

/-! ### Parts between boundaries -/

/-- The part between two offsets; none unless both are boundaries, in their order. -/
def between? (t : Text) (start stop : Nat) : Option Text :=
  if t.IsBoundary start ∧ t.IsBoundary stop ∧ start ≤ stop then
    some (splitAtByte (stop - start) (t.splitAtByte start).2).1
  else none

theorem between?_append (before part after : Text) :
    between? (before ++ (part ++ after)) before.byteLength
      (before.byteLength + part.byteLength) = some part := by
  have hstop : IsBoundary (before ++ (part ++ after)) (before.byteLength + part.byteLength) := by
    rw [← byteLength_append, ← List.append_assoc]
    exact isBoundary_append _ _
  rw [between?, if_pos ⟨isBoundary_append _ _, hstop, Nat.le_add_right _ _⟩,
    splitAtByte_append, Nat.add_sub_cancel_left, splitAtByte_append]

/-! ### Around a character -/

/-- The offset of the first place of a character. -/
def offsetOf? (sep : Char) : Text → Option Nat
  | [] => none
  | c :: cs => if c = sep then some 0 else (offsetOf? sep cs).map (c.utf8Size + ·)

theorem offsetOf?_eq_none {sep : Char} (h : sep ∉ t) : t.offsetOf? sep = none := by
  induction t with
  | nil => rfl
  | cons c cs ih =>
      obtain ⟨hc, hcs⟩ : sep ≠ c ∧ sep ∉ cs := by simpa using h
      rw [offsetOf?, if_neg hc.symm, ih hcs]
      rfl

theorem offsetOf?_append {sep : Char} {before : Text} (h : sep ∉ before) (after : Text) :
    offsetOf? sep (before ++ sep :: after) = some before.byteLength := by
  induction before with
  | nil => rw [List.nil_append, offsetOf?, if_pos rfl, byteLength_nil]
  | cons c before ih =>
      obtain ⟨hc, hb⟩ : sep ≠ c ∧ sep ∉ before := by simpa using h
      rw [List.cons_append, offsetOf?, if_neg hc.symm, ih hb]
      rfl

/-- What stands before an offset, and what stands one byte behind it. -/
def around? (t : Text) (n : Nat) : Option (Text × Text) := do
  let before ← t.between? 0 n
  let after ← t.between? (n + 1) t.byteLength
  some (before, after)

/-- What stands behind a character of one byte. -/
theorem between?_behind {sep : Char} (hsep : sep.utf8Size = 1) (before after : Text) :
    between? (before ++ sep :: after) (before.byteLength + 1)
      (byteLength (before ++ sep :: after)) = some after := by
  have h := between?_append (before ++ [sep]) after []
  simpa [hsep, Nat.add_assoc] using h

/-- **Around a character** of one byte a text is cut at boundaries. -/
theorem around?_append {sep : Char} (hsep : sep.utf8Size = 1) (before after : Text) :
    around? (before ++ sep :: after) before.byteLength = some (before, after) := by
  have hbefore := between?_append [] before (sep :: after)
  rw [byteLength_nil, Nat.zero_add, List.nil_append] at hbefore
  rw [around?, hbefore, between?_behind hsep]
  rfl

end ImportLint.Text
