import ImportLint.Proofs.Path.Names

/-!
# Paths — canonical spellings

What folding leaves is canonical: behind the slash of an absolute path stand names, a relative
path begins with steps upwards, and names follow.  A canonical spelling can stand for its path on
either side of a join.

* `exists_foldComponents_eq_steps`: the normal form of a relative path.
* `normalize_join_normalize`: the normal form of the second part of a join.
* `IsCanonical`, `normalize_eq_self_iff`: the canonical spellings are the normal forms.
* `normalize_canonical`: all of it.
-/

namespace ImportLint.Path

/-! ### Normal forms of relative paths -/

/-- Steps upwards, and names after them. -/
def steps (ups : Nat) (ns : List Text) : List Component :=
  List.replicate ups .parent ++ ns.map .name

/-- The relative path of some steps upwards and names after them. -/
def ofSteps (ups : Nat) (ns : List Text) : Path :=
  ⟨joinSegments (List.replicate ups ['.', '.'] ++ ns)⟩

theorem isNamed_of_mem_steps {ups : Nat} {ns : List Text} (h : AreNames ns) :
    ∀ c ∈ steps ups ns, IsNamed c := by
  intro c hc
  rcases List.mem_append.mp hc with hc | hc
  · rw [List.eq_of_mem_replicate hc]
    decide
  · obtain ⟨n, hn, rfl⟩ := List.mem_map.mp hc
    exact h n hn

theorem map_chars_steps (ups : Nat) (ns : List Text) :
    (steps ups ns).map Component.chars = List.replicate ups ['.', '.'] ++ ns := by
  rw [steps, List.map_append, List.map_replicate, map_chars_name]
  rfl

theorem ofComponents_steps (ups : Nat) {ns : List Text} (h : AreNames ns) :
    ofComponents (steps ups ns) = ofSteps ups ns := by
  rw [ofComponents_eq_joinSegments (isNamed_of_mem_steps h), map_chars_steps, ofSteps]

theorem front_ofSteps (ups : Nat) {ns : List Text} (h : AreNames ns) :
    (ofSteps ups ns).front = [] := by
  rw [ofSteps, ← map_chars_steps, front_joinSegments (isNamed_of_mem_steps h)]

theorem named_ofSteps (ups : Nat) {ns : List Text} (h : AreNames ns) :
    named (ofSteps ups ns).chars = steps ups ns := by
  rw [ofSteps, ← map_chars_steps, named_joinSegments (isNamed_of_mem_steps h)]

theorem isAbsolute_ofSteps (ups : Nat) {ns : List Text} (h : AreNames ns) :
    (ofSteps ups ns).isAbsolute = false := by
  rw [isAbsolute_eq_front, front_ofSteps ups h]
  rfl

theorem components_ofSteps (ups : Nat) {ns : List Text} (h : AreNames ns) :
    (ofSteps ups ns).components = steps ups ns := by
  rw [components_eq, front_ofSteps ups h, named_ofSteps ups h, List.nil_append]

/-- One more component keeps a stack one of steps upwards with names upon them. -/
theorem foldComponent_reverse_steps (ups : Nat) {ns : List Text} (hns : AreNames ns)
    {c : Component} (hc : IsNamed c) :
    ∃ ups' ms, foldComponent (steps ups ns).reverse c = (steps ups' ms).reverse ∧ AreNames ms := by
  cases c with
  | root => exact absurd rfl hc.ne_root
  | current => exact absurd rfl hc.ne_current
  | name n =>
      refine ⟨ups, ns ++ [n], ?_, hns.concat hc⟩
      rw [foldComponent_name]
      simp [steps]
  | parent =>
      rcases List.eq_nil_or_concat ns with rfl | ⟨ms, n, rfl⟩
      · -- there is no name to take back
        refine ⟨ups + 1, [], ?_, hns⟩
        simp only [steps, List.map_nil, List.append_nil, List.reverse_replicate]
        cases ups <;> rfl
      · rw [List.concat_eq_append] at hns ⊢
        refine ⟨ups, ms, ?_, (areNames_append.mp hns).1⟩
        simp [steps, foldComponent]

theorem foldl_reverse_steps (cs : List Component) (hcs : ∀ c ∈ cs, IsNamed c) (ups : Nat)
    {ns : List Text} (hns : AreNames ns) :
    ∃ ups' ms, cs.foldl foldComponent (steps ups ns).reverse = (steps ups' ms).reverse ∧
      AreNames ms := by
  induction cs generalizing ups ns with
  | nil => exact ⟨ups, ns, rfl, hns⟩
  | cons c cs ih =>
      obtain ⟨hc, hcs⟩ := List.forall_mem_cons.mp hcs
      obtain ⟨ups', ms, hms, hnames⟩ := foldComponent_reverse_steps ups hns hc
      rw [List.foldl_cons, hms]
      exact ih hcs ups' hnames

/-- **What is folded of a relative path**: steps upwards, and names after them. -/
theorem exists_foldComponents_eq_steps {p : Path} (hp : p.isAbsolute = false) :
    ∃ ups ns, AreNames ns ∧ foldComponents (named p.chars) = steps ups ns ∧
      p.normalize = ofSteps ups ns := by
  obtain ⟨ups, ns, hfold, hns⟩ :=
    foldl_reverse_steps (named p.chars) (fun c hc => isNamed_of_mem_named hc) 0 areNames_nil
  have hsteps : foldComponents (named p.chars) = steps ups ns := by
    rw [foldComponents]
    change ((named p.chars).foldl foldComponent (steps 0 []).reverse).reverse = _
    rw [hfold, List.reverse_reverse]
  refine ⟨ups, ns, hns, hsteps, ?_⟩
  rw [normalize, components_eq, foldComponents_front_append hp, hsteps, ofComponents_steps ups hns]

theorem isAbsolute_normalize (p : Path) : p.normalize.isAbsolute = p.isAbsolute := by
  cases hp : p.isAbsolute with
  | true =>
      obtain ⟨ns, -, hnorm⟩ := exists_normalize_eq_ofNames hp
      rw [hnorm]
      rfl
  | false =>
      obtain ⟨ups, ns, hns, -, hnorm⟩ := exists_foldComponents_eq_steps hp
      rw [hnorm, isAbsolute_ofSteps ups hns]

/-- **The normal form of the second part** can stand for it under a join. -/
theorem normalize_join_normalize (p q : Path) :
    (p.join q.normalize).normalize = (p.join q).normalize := by
  cases hq : q.isAbsolute with
  | true =>
      have hn : q.normalize.isAbsolute = true := (isAbsolute_normalize q).trans hq
      rw [join, join, if_pos hq, if_pos hn, normalize_normalize]
  | false =>
      have hn : q.normalize.isAbsolute = false := (isAbsolute_normalize q).trans hq
      obtain ⟨ups, ns, hns, hsteps, hnorm⟩ := exists_foldComponents_eq_steps hq
      refine congrArg ofComponents ?_
      rw [foldComponents_join p hn, foldComponents_join p hq, hnorm, named_ofSteps ups hns,
        ← hsteps, foldComponents_append_foldComponents]

/-! ### Canonical spellings -/

/-- The segments of a text; the empty one has none. -/
def pieces (cs : Text) : List Text := if cs = [] then [] else segments cs

/-- The segments of a path behind the slash that it may begin with. -/
def shown (p : Path) : List Text := pieces (if p.isAbsolute then p.chars.tail else p.chars)

/-- A path that is told without idle segments and without steps that can be folded. -/
structure IsCanonical (p : Path) : Prop where
  /-- No segment is empty or `.`. -/
  busy : ∀ s ∈ p.shown, s ≠ [] ∧ s ≠ ['.']
  /-- Upon the root stand names only; in a relative path steps upwards stand before all names. -/
  folded : ∃ (ups : Nat) (ns : List Text), AreNames ns ∧ p.components =
    if p.isAbsolute then .root :: ns.map .name
    else List.replicate ups .parent ++ ns.map .name

theorem IsNamed.chars_busy {c : Component} (h : IsNamed c) : c.chars ≠ [] ∧ c.chars ≠ ['.'] :=
  ⟨fun e => absurd h.1 (by rw [e]; exact nofun), fun e => absurd h.1 (by rw [e]; exact nofun)⟩

theorem pieces_joinSegments {cs : List Component} (h : ∀ c ∈ cs, IsNamed c) :
    pieces (joinSegments (cs.map Component.chars)) = cs.map Component.chars := by
  unfold pieces
  cases cs with
  | nil => rfl
  | cons c cs =>
      have hsegments := segments_joinSegments_chars (List.cons_ne_nil c cs) h
      rw [if_neg, hsegments]
      intro hnil
      rw [hnil] at hsegments
      exact (h c List.mem_cons_self).chars_busy.1 (List.cons.inj hsegments).1.symm

/-- Busy segments are all that a text tells. -/
theorem joinSegments_named {cs : Text} (h : ∀ s ∈ pieces cs, s ≠ [] ∧ s ≠ ['.']) :
    joinSegments ((named cs).map Component.chars) = cs := by
  unfold pieces at h
  split at h
  · next hnil => rw [hnil]; rfl
  · have hall : (segments cs).filter (fun s => !isIdle s) = segments cs :=
      List.filter_eq_self.mpr fun s hs => by simp [isIdle, h s hs]
    rw [map_chars_named, hall, joinSegments_segments]

/-- **A path without idle segments** is the spelling of its components. -/
theorem ofComponents_components {p : Path} (h : ∀ s ∈ p.shown, s ≠ [] ∧ s ≠ ['.']) :
    ofComponents p.components = p := by
  cases hp : p.isAbsolute with
  | true =>
      obtain ⟨cs, hcs⟩ := isAbsolute_iff.mp hp
      obtain rfl : p = ⟨'/' :: cs⟩ := congrArg Path.mk hcs
      exact congrArg (fun t => (⟨'/' :: t⟩ : Path)) (joinSegments_named h)
  | false =>
      rw [shown, hp, if_neg Bool.false_ne_true] at h
      have hfront : p.front = [] := by
        rw [front, hp, if_neg Bool.false_ne_true]
        refine if_neg fun hd => (h ['.'] ?_).2 rfl
        have hne : p.chars ≠ [] := fun e => by
          rw [e] at hd
          cases hd
        rw [pieces, if_neg hne]
        exact List.mem_of_head? hd
      have hnamed : ∀ c ∈ named p.chars, IsNamed c := fun c hc => isNamed_of_mem_named hc
      rw [components_eq, hfront, List.nil_append, ofComponents_eq_joinSegments hnamed,
        joinSegments_named h]

theorem isCanonical_ofNames {ns : List Text} (h : AreNames ns) : (ofNames ns).IsCanonical := by
  refine ⟨fun s hs => ?_, 0, ns, h, components_ofNames h⟩
  have hnamed : ∀ c ∈ steps 0 ns, IsNamed c := isNamed_of_mem_steps h
  change s ∈ pieces (joinSegments ns) at hs
  rw [← List.nil_append ns, ← List.replicate_zero, ← map_chars_steps,
    pieces_joinSegments hnamed] at hs
  obtain ⟨c, hc, rfl⟩ := List.mem_map.mp hs
  exact (hnamed c hc).chars_busy

theorem isCanonical_ofSteps (ups : Nat) {ns : List Text} (h : AreNames ns) :
    (ofSteps ups ns).IsCanonical := by
  have ha := isAbsolute_ofSteps ups h
  refine ⟨fun s hs => ?_, ups, ns, h, ?_⟩
  · have hnamed : ∀ c ∈ steps ups ns, IsNamed c := isNamed_of_mem_steps h
    rw [shown, ha, if_neg Bool.false_ne_true, ofSteps, ← map_chars_steps,
      pieces_joinSegments hnamed] at hs
    obtain ⟨c, hc, rfl⟩ := List.mem_map.mp hs
    exact (hnamed c hc).chars_busy
  · rw [components_ofSteps ups h, ha, if_neg Bool.false_ne_true, steps]

theorem isCanonical_normalize (p : Path) : p.normalize.IsCanonical := by
  cases hp : p.isAbsolute with
  | true =>
      obtain ⟨ns, hns, hnorm⟩ := exists_normalize_eq_ofNames hp
      exact hnorm ▸ isCanonical_ofNames hns
  | false =>
      obtain ⟨ups, ns, hns, -, hnorm⟩ := exists_foldComponents_eq_steps hp
      exact hnorm ▸ isCanonical_ofSteps ups hns

/-- Steps upwards with names after them are not folded. -/
theorem normalize_ofSteps (ups : Nat) {ns : List Text} (h : AreNames ns) :
    (ofSteps ups ns).normalize = ofSteps ups ns := by
  have hups : ∀ k, (List.replicate k Component.parent).foldl foldComponent [] =
      List.replicate k .parent := by
    intro k
    induction k with
    | zero => rfl
    | succ k ih =>
        rw [List.replicate_succ', List.foldl_append, ih, ← List.replicate_succ']
        cases k <;> rfl
  rw [normalize, components_ofSteps ups h, foldComponents, steps, List.foldl_append, hups,
    foldl_map_name, List.reverse_append, List.reverse_reverse, List.reverse_replicate]
  exact ofComponents_steps ups h

/-- **The canonical spellings** are the normal forms. -/
theorem normalize_eq_self_iff {p : Path} : p.normalize = p ↔ p.IsCanonical := by
  refine ⟨fun h => h ▸ isCanonical_normalize p, fun ⟨hbusy, ups, ns, hns, hfolded⟩ => ?_⟩
  have hp := ofComponents_components hbusy
  cases ha : p.isAbsolute with
  | true =>
      rw [ha, if_pos rfl] at hfolded
      rw [hfolded, ← ofNames_eq_ofComponents] at hp
      rw [← hp, normalize_ofNames hns]
  | false =>
      rw [ha, if_neg Bool.false_ne_true] at hfolded
      rw [hfolded, ← steps, ofComponents_steps ups hns] at hp
      rw [← hp, normalize_ofSteps ups hns]

/-- **Normal forms are canonical, and joins do not tell a path from its normal form.**  The
canonical spellings are those that are their own normal forms. -/
theorem normalize_canonical (p q : Path) :
    p.normalize.normalize = p.normalize ∧
      p.normalize.IsCanonical ∧ p.normalize.isAbsolute = p.isAbsolute ∧
      (p.Same q → p.normalize = q.normalize) ∧
      (p.normalize.join q).normalize = (p.join q).normalize ∧
      (p.join q.normalize).normalize = (p.join q).normalize ∧
      (p.normalize = p ↔ p.IsCanonical) :=
  ⟨normalize_normalize p, isCanonical_normalize p, isAbsolute_normalize p, normalize_eq_of_same,
    normalize_normalize_join p q, normalize_join_normalize p q, normalize_eq_self_iff⟩

theorem normalize_idleSpelling :
    let p := ofString "../a//./b/../../c/"
    let q := ofString "../a/b/../../c"
    p.Same q ∧ p.normalize = q.normalize ∧ p.normalize = ofString "../c" := by
  have hsame : (ofString "../a//./b/../../c/").Same (ofString "../a/b/../../c") := by decide
  exact ⟨hsame, (normalize_canonical _ _).2.2.2.1 hsame, by decide⟩

end ImportLint.Path
