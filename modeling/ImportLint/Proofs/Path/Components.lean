import ImportLint.Path.Normal
import ImportLint.Proofs.Text.Parts

/-!
# Paths — what a spelling names

The components of a path are its beginning (`/`, `.` or nothing) and the components that its
segments name.  Both parts can be read off the components again, so that paths which name the
same components differ in idle segments only.

* `components_eq`: the two parts.
* `components_join`, `components_join_of_front`: a join names what the directory names, and then
  what its second part names.
* `Same.join`: two spellings of a directory stay spellings of one path under any join.
* `Same.segments`: two spellings of one path have the same segments but for idle ones.
-/

namespace ImportLint.Path

/-! ### Segments -/

theorem segments_nil : segments [] = [[]] := rfl

theorem segments_slash (cs : Text) : segments ('/' :: cs) = [] :: segments cs :=
  Text.splitOn_sep '/' cs

theorem segments_ne_nil (cs : Text) : segments cs ≠ [] := splitOn_ne_nil '/' cs

theorem head?_segments_append (a : Text) (ss : List Text) :
    (segments a ++ ss).head? = (segments a).head? := by
  obtain ⟨s, r, h⟩ := List.exists_cons_of_ne_nil (segments_ne_nil a)
  rw [h]
  rfl

/-- A character other than a slash goes to the first segment. -/
theorem segments_cons {c : Char} (hc : c ≠ '/') (cs : Text) :
    ∃ s ss, segments cs = s :: ss ∧ segments (c :: cs) = (c :: s) :: ss :=
  Text.splitOn_cons hc cs

/-- A text without slashes goes to the first segment of what follows. -/
theorem segments_append {a : Text} (ha : '/' ∉ a) (cs : Text) :
    ∃ s ss, segments cs = s :: ss ∧ segments (a ++ cs) = (a ++ s) :: ss :=
  Text.splitOn_append ha cs

/-- A slash ends a segment, whatever stands on its sides. -/
theorem segments_append_slash (a b : Text) :
    segments (a ++ '/' :: b) = segments a ++ segments b :=
  Text.splitOn_append_sep '/' a b

theorem slash_not_mem_of_mem_segments {cs s : Text} (h : s ∈ segments cs) : '/' ∉ s := by
  induction cs generalizing s with
  | nil =>
      rw [segments_nil, List.mem_singleton] at h
      subst h
      exact List.not_mem_nil
  | cons c cs ih =>
      by_cases hc : c = '/'
      · subst hc
        rw [segments_slash, List.mem_cons] at h
        rcases h with rfl | h
        · exact List.not_mem_nil
        · exact ih h
      · obtain ⟨t, ts, ht, hct⟩ := segments_cons hc cs
        rw [hct, List.mem_cons] at h
        rcases h with rfl | h
        · have := ih (s := t) (by rw [ht]; exact List.mem_cons_self)
          exact fun hm => (List.mem_cons.mp hm).elim (fun e => hc e.symm) this
        · exact ih (by rw [ht]; exact List.mem_cons_of_mem _ h)

/-- A text without slashes is one segment. -/
theorem segments_of_slash_not_mem {s : Text} (h : '/' ∉ s) : segments s = [s] := by
  induction s with
  | nil => rfl
  | cons c cs ih =>
      obtain ⟨t, ts, ht, hct⟩ := segments_cons (fun e => h (e ▸ List.mem_cons_self)) cs
      rw [ih fun hm => h (List.mem_cons_of_mem _ hm)] at ht
      obtain ⟨rfl, rfl⟩ := List.cons.inj ht
      exact hct

/-- What is joined from segments has these segments. -/
theorem segments_joinSegments {ss : List Text} (hne : ss ≠ []) (h : ∀ s ∈ ss, '/' ∉ s) :
    segments (joinSegments ss) = ss := by
  induction ss with
  | nil => exact absurd rfl hne
  | cons s r ih =>
      cases r with
      | nil => exact segments_of_slash_not_mem (h s List.mem_cons_self)
      | cons t r =>
          rw [joinSegments, segments_append_slash,
            segments_of_slash_not_mem (h s List.mem_cons_self),
            ih (List.cons_ne_nil t r) fun u hu => h u (List.mem_cons_of_mem _ hu)]
          rfl

/-! ### The two parts of a list of components -/

/-- The components that the segments of a text name. -/
def named (cs : Text) : List Component := (segments cs).filterMap Component.ofSegment

/-- How a path begins: with `/`, with a segment `.`, or with neither. -/
def front (p : Path) : List Component :=
  if p.isAbsolute then [.root]
  else if (segments p.chars).head? = some ['.'] then [.current]
  else []

theorem named_nil : named [] = [] := rfl

theorem named_append_slash (a b : Text) : named (a ++ '/' :: b) = named a ++ named b := by
  rw [named, segments_append_slash, List.filterMap_append]; rfl

theorem isAbsolute_iff {p : Path} : p.isAbsolute = true ↔ ∃ cs, p.chars = '/' :: cs := by
  rw [isAbsolute, beq_iff_eq, List.head?_eq_some_iff]

theorem isAbsolute_of_slash_not_mem {n : Text} (h : '/' ∉ n) :
    Path.isAbsolute ⟨n⟩ = false := by
  refine Bool.eq_false_iff.mpr fun ha => ?_
  obtain ⟨cs, hcs⟩ := isAbsolute_iff.mp ha
  exact h (by rw [show n = '/' :: cs from hcs]; exact List.mem_cons_self)

theorem not_slash_of_relative {p : Path} (h : p.isAbsolute = false) (cs : Text) :
    p.chars ≠ '/' :: cs :=
  fun e => absurd (isAbsolute_iff.mpr ⟨cs, e⟩) (Bool.eq_false_iff.mp h)

theorem front_of_isAbsolute {p : Path} (h : p.isAbsolute = true) : p.front = [.root] := by
  rw [front, h]
  rfl

theorem lead_current {p : Path} (h : p.isAbsolute = false) {rest : List Text}
    (hs : segments p.chars = ['.'] :: rest) : p.lead = .current rest := by
  unfold lead
  split
  · next cs hcs => exact absurd hcs (not_slash_of_relative h cs)
  · simp only [hs]

theorem lead_plain {p : Path} (h : p.isAbsolute = false)
    (hs : (segments p.chars).head? ≠ some ['.']) : p.lead = .plain (segments p.chars) := by
  unfold lead
  split
  · next cs hcs => exact absurd hcs (not_slash_of_relative h cs)
  · split
    · next rest hr => exact absurd (by rw [hr]; rfl) hs
    · rfl

/-- **The components of a path**: its beginning, and what its segments name. -/
theorem components_eq (p : Path) : p.components = p.front ++ named p.chars := by
  cases h : p.isAbsolute with
  | true =>
      obtain ⟨cs, hcs⟩ := isAbsolute_iff.mp h
      obtain rfl : p = ⟨'/' :: cs⟩ := congrArg Path.mk hcs
      rw [front, if_pos h, named, segments_slash]
      rfl
  | false =>
      by_cases hd : (segments p.chars).head? = some ['.']
      · obtain ⟨rest, hs⟩ := List.head?_eq_some_iff.mp hd
        rw [components, lead_current h hs, front, h, if_neg Bool.false_ne_true, if_pos hd,
          named, hs]
        rfl
      · rw [components, lead_plain h hd, front, h, if_neg Bool.false_ne_true, if_neg hd]
        rfl

/-- A component that a segment names: neither the beginning `/` nor the beginning `.`. -/
def IsNamed (c : Component) : Prop := Component.ofSegment c.chars = some c ∧ '/' ∉ c.chars

instance (c : Component) : Decidable (IsNamed c) := inferInstanceAs (Decidable (_ ∧ _))

/-- A segment names the component that is written like it. -/
theorem chars_ofSegment {s : Text} {c : Component} (h : Component.ofSegment s = some c) :
    c.chars = s := by
  unfold Component.ofSegment at h
  split at h
  · cases h
  · cases h
  · cases h; rfl
  · cases h; rfl

theorem isNamed_of_mem_named {cs : Text} {c : Component} (h : c ∈ named cs) : IsNamed c := by
  obtain ⟨s, hs, hc⟩ := List.mem_filterMap.mp h
  have hchars := chars_ofSegment hc
  exact ⟨hchars ▸ hc, hchars ▸ slash_not_mem_of_mem_segments hs⟩

theorem IsNamed.ne_root {c : Component} (h : IsNamed c) : c ≠ .root := by
  rintro rfl
  exact h.2 List.mem_cons_self

theorem IsNamed.ne_current {c : Component} (h : IsNamed c) : c ≠ .current := by
  rintro rfl
  cases h.1

/-- Only idle segments name nothing. -/
theorem ofSegment_eq_none_iff {s : Text} : Component.ofSegment s = none ↔ isIdle s = true := by
  unfold Component.ofSegment isIdle
  split <;> simp_all

/-- What the segments name is written like the segments that are not idle. -/
theorem map_chars_named (cs : Text) :
    (named cs).map Component.chars = (segments cs).filter fun s => !isIdle s := by
  rw [named]
  induction segments cs with
  | nil => rfl
  | cons s ss ih =>
      cases h : Component.ofSegment s with
      | none =>
          rw [List.filterMap_cons_none h, List.filter_cons_of_neg
            (by simp [ofSegment_eq_none_iff.mp h]), ih]
      | some c =>
          have hi : isIdle s = false := by
            rw [← Bool.not_eq_true, ← ofSegment_eq_none_iff, h]
            exact Option.some_ne_none c
          rw [List.filterMap_cons_some h, List.filter_cons_of_pos (by simp [hi]), List.map_cons,
            chars_ofSegment h, ih]

/-! ### Two spellings of one path -/

/-- Nothing of a beginning is named by a segment. -/
theorem not_isNamed_of_mem_front {p : Path} {c : Component} (h : c ∈ p.front) :
    ¬ IsNamed c := by
  unfold front at h
  split at h
  · rw [List.mem_singleton.mp h]
    exact fun hn => hn.ne_root rfl
  · split at h
    · rw [List.mem_singleton.mp h]
      exact fun hn => hn.ne_current rfl
    · cases h

theorem length_front_le (p : Path) : p.front.length ≤ 1 := by
  unfold front
  split
  · exact Nat.le_refl 1
  · split
    · exact Nat.le_refl 1
    · exact Nat.zero_le 1

/-- Two spellings of one path begin alike, and their segments name the same. -/
theorem Same.parts {p q : Path} (h : p.Same q) :
    p.front = q.front ∧ named p.chars = named q.chars := by
  have hpq : p.front ++ named p.chars = q.front ++ named q.chars := by
    rw [← components_eq, ← components_eq]
    exact h
  have hp := length_front_le p
  have hq := length_front_le q
  cases e : p.front with
  | nil =>
      cases f : q.front with
      | nil => rw [e, f] at hpq; exact ⟨rfl, hpq⟩
      | cons d ds =>
          rw [e, f, List.nil_append, List.cons_append] at hpq
          exact absurd (isNamed_of_mem_named (hpq ▸ List.mem_cons_self))
            (not_isNamed_of_mem_front (f ▸ List.mem_cons_self))
  | cons c cs =>
      cases f : q.front with
      | nil =>
          rw [e, f, List.nil_append, List.cons_append] at hpq
          exact absurd (isNamed_of_mem_named (hpq.symm ▸ List.mem_cons_self))
            (not_isNamed_of_mem_front (e ▸ List.mem_cons_self))
      | cons d ds =>
          rw [e, List.length_cons] at hp
          rw [f, List.length_cons] at hq
          obtain rfl : cs = [] := List.length_eq_zero_iff.mp (by omega)
          obtain rfl : ds = [] := List.length_eq_zero_iff.mp (by omega)
          rw [e, f] at hpq
          obtain ⟨rfl, hn⟩ := List.cons.inj hpq
          exact ⟨rfl, hn⟩

/-- Two spellings of one path have the same segments but for idle ones. -/
theorem Same.segments {p q : Path} (h : p.Same q) :
    (Path.segments p.chars).filter (fun s => !isIdle s)
      = (Path.segments q.chars).filter fun s => !isIdle s := by
  rw [← map_chars_named, ← map_chars_named, h.parts.2]

theorem isAbsolute_eq_front (p : Path) : p.isAbsolute = (p.front.head? == some .root) := by
  unfold front
  split
  · next h => rw [h]; rfl
  · next h =>
    rw [Bool.not_eq_true] at h
    rw [h]
    split <;> rfl

theorem Same.isAbsolute {p q : Path} (h : p.Same q) : p.isAbsolute = q.isAbsolute := by
  rw [isAbsolute_eq_front, isAbsolute_eq_front, h.parts.1]

/-- Only the empty spelling has no components. -/
theorem components_eq_nil_iff {p : Path} : p.components = [] ↔ p.chars = [] := by
  refine ⟨fun h => ?_, fun h => ?_⟩
  · rw [components_eq, List.append_eq_nil_iff] at h
    obtain ⟨hf, hn⟩ := h
    unfold front at hf
    split at hf
    · cases hf
    · next ha =>
      split at hf
      · cases hf
      · next hd =>
        refine Classical.byContradiction fun hne => ?_
        obtain ⟨c, cs, hcs⟩ := List.exists_cons_of_ne_nil hne
        have hc : c ≠ '/' := fun e => ha (isAbsolute_iff.mpr ⟨cs, e ▸ hcs⟩)
        obtain ⟨s, ss, -, hs⟩ := segments_cons hc cs
        rw [named, hcs, hs, List.filterMap_eq_nil_iff] at hn
        have hidle := ofSegment_eq_none_iff.mp (hn (c :: s) List.mem_cons_self)
        simp only [isIdle, Bool.or_eq_true, beq_iff_eq, reduceCtorEq, false_or] at hidle
        rw [hcs, hs, hidle] at hd
        exact hd rfl
  · rw [components_eq, h]
    simp [front, isAbsolute, h, named_nil, segments_nil]

/-! ### Joins -/

/-- A beginning does not depend on what follows the first slash. -/
theorem front_append_slash (a b c : Text) :
    front ⟨a ++ '/' :: b⟩ = front ⟨a ++ '/' :: c⟩ := by
  have ha : Path.isAbsolute ⟨a ++ '/' :: b⟩ = Path.isAbsolute ⟨a ++ '/' :: c⟩ := by
    cases a <;> rfl
  have hs : ∀ d, (Path.segments (a ++ '/' :: d)).head? = (Path.segments a).head? := fun d => by
    rw [segments_append_slash, head?_segments_append]
  unfold front
  rw [ha, hs b, hs c]

theorem front_append_slash_nil {a : Text} (h : a ≠ []) (b : Text) :
    front ⟨a ++ '/' :: b⟩ = front ⟨a⟩ := by
  have ha : Path.isAbsolute ⟨a ++ '/' :: b⟩ = Path.isAbsolute ⟨a⟩ := by
    obtain ⟨c, cs, rfl⟩ := List.exists_cons_of_ne_nil h
    rfl
  unfold front
  rw [ha, segments_append_slash, head?_segments_append]

/-- A relative path that is joined comes after a slash. -/
theorem chars_join {p q : Path} (hq : q.isAbsolute = false) (hp : p.chars ≠ []) :
    ∃ a, (p.chars = a ∨ p.chars = a ++ ['/']) ∧ (p.join q).chars = a ++ '/' :: q.chars := by
  unfold join
  rw [hq, if_neg Bool.false_ne_true]
  split
  · next h => exact absurd (List.getLast?_eq_none_iff.mp h) hp
  · next h =>
    obtain ⟨a, ha⟩ := List.getLast?_eq_some_iff.mp h
    exact ⟨a, Or.inr ha, by simp [ha]⟩
  · exact ⟨p.chars, Or.inl rfl, rfl⟩

/-- **The components of a join**: those of the directory, and what the relative path names. -/
theorem components_join {p q : Path} (hq : q.isAbsolute = false) (hp : p.chars ≠ []) :
    (p.join q).components = p.components ++ named q.chars := by
  obtain ⟨a, ha, hj⟩ := chars_join hq hp
  have hf : front (p.join q) = p.front := by
    rw [show p.join q = ⟨a ++ '/' :: q.chars⟩ from congrArg Path.mk hj]
    rcases ha with ha | ha
    · rw [front_append_slash_nil (ha ▸ hp), ← ha]
    · rw [show p = ⟨a ++ ['/']⟩ from congrArg Path.mk ha, front_append_slash a _ []]
  have hn : named p.chars = named a := by
    rcases ha with ha | ha
    · rw [ha]
    · rw [ha, named_append_slash, named_nil, List.append_nil]
  rw [components_eq, components_eq p, hf, hj, named_append_slash, hn, List.append_assoc]

/-- A path without a beginning can be joined to any directory, also to the empty one. -/
theorem components_join_of_front {q : Path} (hq : q.front = []) (p : Path) :
    (p.join q).components = p.components ++ named q.chars := by
  have hrelative : q.isAbsolute = false := by
    rw [isAbsolute_eq_front, hq]
    rfl
  by_cases hp : p.chars = []
  · have hjoin : p.join q = q := by
      rw [join, hrelative, if_neg Bool.false_ne_true, hp]
      rfl
    rw [hjoin, components_eq_nil_iff.mpr hp, components_eq, hq]
  · exact components_join hrelative hp

/-- **Two spellings of a directory** stay spellings of one path under a join. -/
theorem Same.join {p p' : Path} (h : p.Same p') (q : Path) : (p.join q).Same (p'.join q) := by
  cases hq : q.isAbsolute with
  | true => rw [Path.join, Path.join, if_pos hq, if_pos hq]; exact rfl
  | false =>
      by_cases hp : p.chars = []
      · have hp' : p'.chars = [] := components_eq_nil_iff.mp (h ▸ components_eq_nil_iff.mpr hp)
        rw [show p = p' from congrArg Path.mk (hp.trans hp'.symm)]
        exact rfl
      · have hp' : p'.chars ≠ [] := fun e =>
          hp (components_eq_nil_iff.mp (Eq.trans h (components_eq_nil_iff.mpr e)))
        rw [Same, components_join hq hp, components_join hq hp', show p.components = _ from h]

end ImportLint.Path
