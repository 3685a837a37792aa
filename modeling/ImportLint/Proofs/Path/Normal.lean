import ImportLint.Proofs.Path.Components

/-!
# Paths — what normal forms name

A normal form is spelled from components, and these can be read off it again.  So normal forms
that name the same components are one text: a normal form is told by what it names.

* `components_ofComponents`: the components of a spelling are those it was made of.
* `components_normalize`: the components of a normal form.
* `normalize_eq_of_same`: spellings of one path have one normal form.
* `Same.eq_of_normalize`: two normal forms that name the same are equal.
* `foldl_foldComponents`: a list of components and its folded form act alike.
* `normalize_normalize_join`: under a join a directory can be replaced by its normal form.
-/

namespace ImportLint.Path

/-- Components that have a spelling: `/` at most, and then such as segments name. -/
def Spellable (cs : List Component) : Prop :=
  ∃ base rest, cs = base ++ rest ∧ (base = [] ∨ base = [.root]) ∧ ∀ c ∈ rest, IsNamed c

theorem filterMap_ofSegment_chars {cs : List Component} (h : ∀ c ∈ cs, IsNamed c) :
    (cs.map Component.chars).filterMap Component.ofSegment = cs := by
  induction cs with
  | nil => rfl
  | cons c cs ih =>
      rw [List.map_cons, List.filterMap_cons_some (h c List.mem_cons_self).1,
        ih fun d hd => h d (List.mem_cons_of_mem _ hd)]

theorem segments_joinSegments_chars {cs : List Component} (hne : cs ≠ [])
    (h : ∀ c ∈ cs, IsNamed c) :
    segments (joinSegments (cs.map Component.chars)) = cs.map Component.chars :=
  segments_joinSegments (fun e => hne (List.map_eq_nil_iff.mp e)) fun s hs => by
    obtain ⟨c, hc, rfl⟩ := List.mem_map.mp hs
    exact (h c hc).2

/-- What is joined from the segments of components names these components. -/
theorem named_joinSegments {cs : List Component} (h : ∀ c ∈ cs, IsNamed c) :
    named (joinSegments (cs.map Component.chars)) = cs := by
  cases cs with
  | nil => rfl
  | cons c cs =>
      rw [named, segments_joinSegments_chars (List.cons_ne_nil c cs) h,
        filterMap_ofSegment_chars h]

/-- What is joined from the segments of components begins with none of the beginnings. -/
theorem front_joinSegments {cs : List Component} (h : ∀ c ∈ cs, IsNamed c) :
    front ⟨joinSegments (cs.map Component.chars)⟩ = [] := by
  cases cs with
  | nil => rfl
  | cons c cs =>
      obtain ⟨hseg, hslash⟩ := h c List.mem_cons_self
      have hs := segments_joinSegments_chars (List.cons_ne_nil c cs) h
      have hd : c.chars ≠ ['.'] := fun e => by rw [e] at hseg; cases hseg
      have ha : Path.isAbsolute ⟨joinSegments ((c :: cs).map Component.chars)⟩ = false := by
        refine Bool.eq_false_iff.mpr fun ha => ?_
        obtain ⟨t, ht⟩ := isAbsolute_iff.mp ha
        rw [show joinSegments ((c :: cs).map Component.chars) = '/' :: t from ht,
          segments_slash] at hs
        have hnil : c.chars = [] := (List.cons.inj hs).1.symm
        rw [hnil] at hseg
        cases hseg
      rw [front, ha, if_neg Bool.false_ne_true, if_neg]
      rw [hs]
      exact fun e => hd (Option.some.inj e)

/-- Components that segments name are spelled by these segments. -/
theorem ofComponents_eq_joinSegments {cs : List Component} (h : ∀ c ∈ cs, IsNamed c) :
    ofComponents cs = ⟨joinSegments (cs.map Component.chars)⟩ := by
  cases cs with
  | nil => rfl
  | cons c cs =>
      have hc := (h c List.mem_cons_self).ne_root
      cases c with
      | root => exact absurd rfl hc
      | current => rfl
      | parent => rfl
      | name n => rfl

/-- **The components of a spelling** are those it was made of. -/
theorem components_ofComponents {cs : List Component} (h : Spellable cs) :
    (ofComponents cs).components = cs := by
  obtain ⟨base, rest, rfl, rfl | rfl, hr⟩ := h
  · rw [List.nil_append, ofComponents_eq_joinSegments hr, components_eq, front_joinSegments hr,
      named_joinSegments hr, List.nil_append]
  · change (⟨'/' :: joinSegments (rest.map Component.chars)⟩ : Path).components = _
    rw [components_eq, named, segments_slash]
    exact congrArg (Component.root :: ·) (named_joinSegments hr)

/-- One more named component keeps a stack of components spellable from its far end. -/
theorem spellable_foldComponent {done : List Component} {c : Component}
    (h : Spellable done.reverse) (hc : IsNamed c) :
    Spellable (foldComponent done c).reverse := by
  obtain ⟨base, rest, hd, hb, hr⟩ := h
  have push : Spellable (c :: done).reverse := by
    refine ⟨base, rest ++ [c], by rw [List.reverse_cons, hd, List.append_assoc], hb, ?_⟩
    intro d hm
    rcases List.mem_append.mp hm with hm | hm
    · exact hr d hm
    · rw [List.mem_singleton.mp hm]; exact hc
  cases c with
  | root => exact absurd rfl hc.ne_root
  | current => exact absurd rfl hc.ne_current
  | name n => cases done <;> exact push
  | parent =>
      cases done with
      | nil => exact push
      | cons d ds =>
          cases d with
          | root => exact ⟨base, rest, hd, hb, hr⟩
          | current => exact push
          | parent => exact push
          | name n =>
              -- the name is the last of `rest`, since `base` holds no name
              rcases List.eq_nil_or_concat rest with rfl | ⟨init, last, rfl⟩
              · rw [List.append_nil, List.reverse_cons] at hd
                rcases hb with rfl | rfl
                · exact absurd hd (by simp)
                · have hname : ds.reverse ++ [.name n] = [] ++ [Component.root] := hd
                  cases List.append_inj_right' hname rfl
              · rw [List.reverse_cons, List.concat_eq_append, ← List.append_assoc] at hd
                have hinit := List.append_inj_left' hd rfl
                refine ⟨base, init, hinit, hb, fun d hm => hr d ?_⟩
                rw [List.concat_eq_append]
                exact List.mem_append_left _ hm

theorem spellable_foldl {cs done : List Component} (h : Spellable done.reverse)
    (hc : ∀ c ∈ cs, IsNamed c) : Spellable (cs.foldl foldComponent done).reverse := by
  induction cs generalizing done with
  | nil => exact h
  | cons c cs ih =>
      exact ih (spellable_foldComponent h (hc c List.mem_cons_self))
        fun d hd => hc d (List.mem_cons_of_mem _ hd)

theorem spellable_foldComponents (p : Path) : Spellable (foldComponents p.components) := by
  rw [foldComponents, components_eq, List.foldl_append]
  refine spellable_foldl ?_ fun c hc => isNamed_of_mem_named hc
  have nothing : ∀ c ∈ ([] : List Component), IsNamed c := fun c hc => by cases hc
  unfold front
  split
  · exact ⟨[.root], [], rfl, Or.inr rfl, nothing⟩
  · split
    · exact ⟨[], [], rfl, Or.inl rfl, nothing⟩
    · exact ⟨[], [], rfl, Or.inl rfl, nothing⟩

/-- **The components of a normal form** are the folded ones. -/
theorem components_normalize (p : Path) :
    p.normalize.components = foldComponents p.components :=
  components_ofComponents (spellable_foldComponents p)

theorem normalize_eq_of_same {p q : Path} (h : p.Same q) : p.normalize = q.normalize := by
  rw [normalize, normalize, show p.components = q.components from h]

/-- **Normal forms that name the same are equal.** -/
theorem Same.eq_of_normalize {p q : Path} (h : p.normalize.Same q.normalize) :
    p.normalize = q.normalize := by
  have hc : foldComponents p.components = foldComponents q.components := by
    rw [← components_normalize, ← components_normalize]
    exact h
  rw [normalize, normalize, hc]

/-! ### Folding again

A list of components acts on any stack like its folded form: a `..` that is kept takes back from
the stack what it would have taken back. -/

theorem foldComponent_name (done : List Component) (n : Text) :
    foldComponent done (.name n) = .name n :: done := by
  cases done <;> rfl

theorem foldComponent_root (done : List Component) :
    foldComponent done .root = .root :: done := by
  cases done <;> rfl

theorem foldComponent_current (done : List Component) : foldComponent done .current = done := by
  cases done <;> rfl

/-- One more component acts alike before and after folding. -/
theorem foldComponent_foldl_reverse (done ds : List Component) (c : Component) :
    (foldComponent ds c).reverse.foldl foldComponent done =
      foldComponent (ds.reverse.foldl foldComponent done) c := by
  rw [List.foldl_reverse, List.foldl_reverse]
  cases c with
  | root => rw [foldComponent_root ds]; rfl
  | name n => rw [foldComponent_name ds]; rfl
  | current => rw [foldComponent_current, foldComponent_current]
  | parent =>
      cases ds with
      | nil => rfl
      | cons d ds =>
          rw [List.foldr_cons]
          cases d with
          | current => rfl
          | parent => rfl
          | root =>
              -- a step upwards stays at the root, also at one that stands upon other things
              rw [foldComponent_root]
              exact foldComponent_root _
          | name n =>
              -- the name is put upon the stack and taken back
              rw [foldComponent_name]
              rfl

/-- **A list of components acts like its folded form.** -/
theorem foldl_foldComponents (done cs : List Component) :
    (foldComponents cs).foldl foldComponent done = cs.foldl foldComponent done := by
  suffices h : ∀ ds, (cs.foldl foldComponent ds).reverse.foldl foldComponent done =
      cs.foldl foldComponent (ds.reverse.foldl foldComponent done) from h []
  induction cs with
  | nil => exact fun ds => rfl
  | cons c cs ih =>
      intro ds
      rw [List.foldl_cons, List.foldl_cons, ih, foldComponent_foldl_reverse]

/-- **Folding a part first** changes nothing. -/
theorem foldComponents_append (cs ds : List Component) :
    foldComponents (foldComponents cs ++ ds) = foldComponents (cs ++ ds) := by
  refine congrArg List.reverse ?_
  rw [List.foldl_append, List.foldl_append, foldl_foldComponents]

theorem foldComponents_append_foldComponents (cs ds : List Component) :
    foldComponents (cs ++ foldComponents ds) = foldComponents (cs ++ ds) := by
  have h := foldl_foldComponents (cs.foldl foldComponent []) ds
  rw [← List.foldl_append, ← List.foldl_append] at h
  exact congrArg List.reverse h

/-- The beginning of a relative path is folded away. -/
theorem foldComponents_front_append {q : Path} (hq : q.isAbsolute = false)
    (cs : List Component) : foldComponents (q.front ++ cs) = foldComponents cs := by
  unfold front
  rw [hq, if_neg Bool.false_ne_true]
  split <;> rfl

/-- What is folded of a join: the directory, and what the relative path names. -/
theorem foldComponents_join (p : Path) {q : Path} (hq : q.isAbsolute = false) :
    foldComponents (p.join q).components = foldComponents (p.components ++ named q.chars) := by
  by_cases hp : p.chars = []
  · have hj : p.join q = q := by
      unfold join
      rw [hq, if_neg Bool.false_ne_true, hp]
      rfl
    rw [hj, components_eq_nil_iff.mpr hp, components_eq q, foldComponents_front_append hq]
    rfl
  · rw [components_join hq hp]

/-- **The normal form of a directory** can stand for it under a join. -/
theorem normalize_normalize_join (p q : Path) :
    (p.normalize.join q).normalize = (p.join q).normalize := by
  cases hq : q.isAbsolute with
  | true => rw [join, join, if_pos hq, if_pos hq]
  | false =>
      refine congrArg ofComponents ?_
      rw [foldComponents_join _ hq, foldComponents_join _ hq, components_normalize,
        foldComponents_append]

/-- A normal form is its own normal form. -/
theorem normalize_normalize (p : Path) : p.normalize.normalize = p.normalize := by
  have h := foldComponents_append p.components []
  rw [List.append_nil, List.append_nil] at h
  rw [normalize, components_normalize, h]
  rfl

end ImportLint.Path
