import Mathlib.Data.List.DropRight
import ImportLint.Path.Basic

/-!
# Text — parts of a text

A text is cut at the first place of a character or behind the last one, or the character does not
occur in it.  What is stripped from an end of a text stood there.

* `Text.cutAt_append`: the cut of a text whose first part is free of the character.
* `Text.cutAt_cases`: what a cut tells about the text.
* `Text.rdropWhile_cases`: a text up to the last place of a character.
* `Text.splitOn_append_sep`, `Text.splitOn_append`: the parts between the places of a character.
* `Text.stripStart_eq_some_iff`, `Text.stripEnd_eq_some_iff`: the two ends.
-/

namespace ImportLint.Text

theorem cutAt_append {sep : Char} {before : Text} (h : sep ∉ before) (after : Text) :
    cutAt sep (before ++ sep :: after) = some (before, after) := by
  induction before with
  | nil => rw [List.nil_append, cutAt, if_pos rfl]
  | cons c before ih =>
      obtain ⟨hc, hb⟩ : sep ≠ c ∧ sep ∉ before := by simpa using h
      rw [List.cons_append, cutAt, if_neg hc.symm, ih hb]
      rfl

/-- A text without the character is not cut; any other one is cut at its first place. -/
theorem cutAt_cases (sep : Char) (t : Text) :
    cutAt sep t = none ∧ sep ∉ t ∨
      ∃ before after, cutAt sep t = some (before, after) ∧ sep ∉ before ∧
        t = before ++ sep :: after := by
  by_cases h : sep ∈ t
  · obtain ⟨before, after, rfl, hb⟩ := List.eq_append_cons_of_mem h
    exact Or.inr ⟨before, after, cutAt_append hb after, hb, rfl⟩
  · refine Or.inl ⟨?_, h⟩
    induction t with
    | nil => rfl
    | cons c cs ih =>
        obtain ⟨hc, hcs⟩ : sep ≠ c ∧ sep ∉ cs := by simpa using h
        rw [cutAt, if_neg hc.symm, ih hcs]
        rfl

/-- A text up to the last place of a character ends with the character, or there is none. -/
theorem rdropWhile_cases (sep : Char) (t : Text) :
    t.rdropWhile (· ≠ sep) = [] ∨ ∃ a, t.rdropWhile (· ≠ sep) = a ++ [sep] := by
  rcases List.eq_nil_or_concat (t.rdropWhile (· ≠ sep)) with hnil | ⟨a, c, hc⟩
  · exact Or.inl hnil
  · rw [List.concat_eq_append] at hc
    have hne : t.rdropWhile (· ≠ sep) ≠ [] := by
      rw [hc]
      exact List.append_ne_nil_of_right_ne_nil a (List.cons_ne_nil c [])
    have hlast : ¬ decide ((t.rdropWhile (· ≠ sep)).getLast hne ≠ sep) = true :=
      List.rdropWhile_last_not _ _ hne
    rw [List.getLast_congr hne (by simp) hc, List.getLast_append_singleton, decide_eq_true_eq,
      not_not] at hlast
    exact Or.inr ⟨a, hlast ▸ hc⟩

/-! ### Between the places of a character -/

theorem splitOn_sep (sep : Char) (cs : Text) : splitOn sep (sep :: cs) = [] :: splitOn sep cs := by
  simp [splitOn]

/-- Another character goes to the first part. -/
theorem splitOn_cons {sep c : Char} (hc : c ≠ sep) (cs : Text) :
    ∃ s ss, splitOn sep cs = s :: ss ∧ splitOn sep (c :: cs) = (c :: s) :: ss := by
  cases h : splitOn sep cs with
  | nil => exact absurd h (Path.splitOn_ne_nil sep cs)
  | cons s ss =>
      refine ⟨s, ss, rfl, ?_⟩
      simp [splitOn, hc, h]

/-- A text without the character goes to the first part of what follows. -/
theorem splitOn_append {sep : Char} {a : Text} (ha : sep ∉ a) (cs : Text) :
    ∃ s ss, splitOn sep cs = s :: ss ∧ splitOn sep (a ++ cs) = (a ++ s) :: ss := by
  induction a with
  | nil =>
      obtain ⟨s, ss, hs⟩ := List.exists_cons_of_ne_nil (Path.splitOn_ne_nil sep cs)
      exact ⟨s, ss, hs, hs⟩
  | cons c a ih =>
      obtain ⟨hc, ha⟩ : sep ≠ c ∧ sep ∉ a := by simpa using ha
      obtain ⟨s, ss, hs, has⟩ := ih ha
      obtain ⟨t, ts, ht, hct⟩ := splitOn_cons hc.symm (a ++ cs)
      rw [has] at ht
      obtain ⟨rfl, rfl⟩ := List.cons.inj ht
      exact ⟨s, ss, hs, hct⟩

/-- The character ends a part, whatever stands on its sides. -/
theorem splitOn_append_sep (sep : Char) (a b : Text) :
    splitOn sep (a ++ sep :: b) = splitOn sep a ++ splitOn sep b := by
  induction a with
  | nil => rw [List.nil_append, splitOn_sep]; rfl
  | cons c cs ih =>
      by_cases hc : c = sep
      · subst hc
        rw [List.cons_append, splitOn_sep, splitOn_sep, ih]; rfl
      · obtain ⟨s, ss, hs, hcs⟩ := splitOn_cons hc cs
        obtain ⟨t, ts, ht, hct⟩ := splitOn_cons hc (cs ++ sep :: b)
        rw [List.cons_append, hct, hcs]
        rw [ih, hs, List.cons_append] at ht
        obtain ⟨rfl, rfl⟩ := List.cons.inj ht
        rfl

theorem length_splitOn (sep : Char) (t : Text) : (splitOn sep t).length = t.count sep + 1 := by
  induction t with
  | nil => rfl
  | cons c cs ih =>
      by_cases hc : c = sep
      · subst hc
        rw [splitOn_sep, List.length_cons, ih, List.count_cons_self]
      · obtain ⟨s, ss, hs, hcs⟩ := splitOn_cons hc cs
        rw [hs, List.length_cons] at ih
        rw [hcs, List.length_cons, ih, List.count_cons_of_ne hc]

/-! ### The two ends -/

theorem stripStart_eq_some_iff {start t rest : Text} :
    stripStart start t = some rest ↔ t = start ++ rest := by
  induction start generalizing t with
  | nil => exact ⟨fun h => by cases h; rfl, fun h => by rw [h]; rfl⟩
  | cons s start ih =>
      cases t with
      | nil => simp [stripStart]
      | cons c cs =>
          by_cases hc : s = c
          · simp [stripStart, hc, ih]
          · simp [stripStart, hc, Ne.symm hc]

theorem stripStart_append (start rest : Text) : stripStart start (start ++ rest) = some rest :=
  stripStart_eq_some_iff.mpr rfl

theorem stripEnd_eq_some_iff {tail t rest : Text} :
    stripEnd tail t = some rest ↔ t = rest ++ tail := by
  rw [stripEnd, Option.map_eq_some_iff]
  refine ⟨fun ⟨u, hu, hr⟩ => ?_, fun h => ⟨rest.reverse, ?_, List.reverse_reverse _⟩⟩
  · rw [← List.reverse_reverse t, stripStart_eq_some_iff.mp hu, List.reverse_append,
      List.reverse_reverse, hr]
  · rw [stripStart_eq_some_iff, h, List.reverse_append]

end ImportLint.Text
