import Mathlib.Data.List.DropRight
import ImportLint.Project.Patterns
import ImportLint.Proofs.Path.Names

/-!
# Projects — patterns that spell a directory

A pattern can name a directory as it is seen from the root of the project, with `./` in front and
slashes behind, or in full.  Seen from the root, both are the names joined by slashes.

* `Spells`: the spellings of a directory that come to its names.
* `relativePattern_of_spells`: what such a pattern comes to.
-/

namespace ImportLint

open ImportLint.Path (AreNames IsName ofNames joinSegments segments isIdle dropComponents
  dropIdleEnd)

/-- A text spells the directory that some names lead to from a root.  Between the names stands one
slash each. -/
inductive Spells (root : Path) (ds : List Text) (t : Text) : Prop
  /-- Seen from the root, with dots in front and slashes behind. -/
  | fromRoot (front back : List Text) (hfront : ∀ s ∈ front, s = ['.'])
      (hback : ∀ s ∈ back, s = []) (hne : ds ++ back ≠ [])
      (hrelative : Path.isAbsolute ⟨t⟩ = false) (h : segments t = front ++ ds ++ back)
  /-- In full, with any spelling of the root and segments behind that name nothing. -/
  | inFull (upper back : List Text)
      (hupper : .root :: upper.filterMap Component.ofSegment = root.components)
      (hback : ∀ s ∈ back, isIdle s = true)
      (habsolute : Path.isAbsolute ⟨t⟩ = true) (h : segments t = [] :: (upper ++ ds ++ back))

/-! ### Seen from the root -/

/-- A relative path is not below an absolute one. -/
theorem Path.stripBase_of_relative {p base : Path} (hp : p.isAbsolute = false)
    (hbase : base.components.head? = some .root) : p.stripBase base = none := by
  unfold stripBase
  rw [if_neg]
  intro hstarts
  obtain ⟨more, hmore⟩ := List.isPrefixOf_iff_prefix.mp hstarts
  have hhead : p.components.head? = some .root := by
    rw [← hmore, List.head?_append, hbase]
    rfl
  rw [components_eq] at hhead
  cases hfront : p.front with
  | nil =>
      rw [hfront, List.nil_append] at hhead
      exact (isNamed_of_mem_named (List.mem_of_mem_head? hhead)).ne_root rfl
  | cons c cs =>
      rw [hfront] at hhead
      rw [isAbsolute_eq_front, hfront, show (c :: cs).head? = some .root from hhead] at hp
      cases hp

theorem dropDotSlashes_joinSegments {front rest : List Text} (hfront : ∀ s ∈ front, s = ['.'])
    (hrest : rest ≠ []) :
    dropDotSlashes (joinSegments (front ++ rest)) = dropDotSlashes (joinSegments rest) := by
  induction front with
  | nil => rfl
  | cons s front ih =>
      obtain ⟨rfl, hothers⟩ := List.forall_mem_cons.mp hfront
      have hne : front ++ rest ≠ [] := List.append_ne_nil_of_right_ne_nil front hrest
      rw [← ih hothers, List.cons_append, ← List.singleton_append,
        Path.joinSegments_append (List.cons_ne_nil _ _) hne]
      rfl

theorem dropDotSlashes_of_head? {t : Text} (h : (segments t).head? ≠ some ['.']) :
    dropDotSlashes t = t := by
  unfold dropDotSlashes
  split
  · next rest =>
    refine absurd ?_ h
    rw [← List.singleton_append, Path.segments_append_slash]
    rfl
  · rfl

theorem Path.IsName.ne_dot {n : Text} (h : IsName n) : n ≠ ['.'] := by
  rintro rfl
  cases h.1

/-- Names do not end with a slash when they are joined. -/
theorem dropTrailingSlashes_names {ds : List Text} (hds : AreNames ds) :
    dropTrailingSlashes (joinSegments ds) = joinSegments ds := by
  change List.rdropWhile (· == '/') (joinSegments ds) = _
  rw [List.rdropWhile_eq_self_iff]
  intro hne hslash
  have hlast : (joinSegments ds).getLast? = some '/' := by
    rw [List.getLast?_eq_some_getLast hne, beq_iff_eq.mp hslash]
  rcases List.eq_nil_or_concat ds with rfl | ⟨ms, m, rfl⟩
  · cases hlast
  · rw [List.concat_eq_append] at hds hlast
    have hm : IsName m := (Path.areNames_append.mp hds).2 m List.mem_cons_self
    have hmne : m ≠ [] := by rintro rfl; cases hm.1
    rw [Path.getLast?_joinSegments_concat ms hmne] at hlast
    exact hm.2 (List.mem_of_getLast? hlast)

/-- Slashes behind names are dropped. -/
theorem dropTrailingSlashes_joinSegments {ds back : List Text} (hds : AreNames ds)
    (hback : ∀ s ∈ back, s = []) :
    dropTrailingSlashes (joinSegments (ds ++ back)) = joinSegments ds := by
  induction back using List.reverseRecOn with
  | nil => rw [List.append_nil, dropTrailingSlashes_names hds]
  | append_singleton back s ih =>
      have hs : s = [] := hback s (List.mem_append_right back List.mem_cons_self)
      have hrest := ih fun u hu => hback u (List.mem_append_left _ hu)
      by_cases hne : ds ++ back = []
      · rw [← List.append_assoc, hne, hs, (List.append_eq_nil_iff.mp hne).1]
        rfl
      · rw [← List.append_assoc, Path.joinSegments_concat hne, hs]
        exact (List.rdropWhile_concat_pos _ _ '/' (by rfl)).trans hrest

/-! ### In full -/

/-- What follows the segments of some components. -/
theorem Path.dropWhile_dropComponents (upper rest : List Text) :
    (dropComponents (upper.filterMap Component.ofSegment).length (upper ++ rest)).dropWhile isIdle =
      rest.dropWhile isIdle := by
  induction upper with
  | nil => rw [List.filterMap_nil, List.length_nil, dropComponents, List.nil_append]
  | cons s upper ih =>
      cases hs : Component.ofSegment s with
      | none =>
          have hidle := Path.ofSegment_eq_none_iff.mp hs
          rw [List.filterMap_cons_none hs, List.cons_append]
          generalize (upper.filterMap Component.ofSegment).length = n at ih ⊢
          cases n with
          | zero =>
              rw [dropComponents, List.dropWhile_cons_of_pos hidle]
              rwa [dropComponents] at ih
          | succ n => rw [dropComponents, if_pos hidle, ih]
      | some c =>
          have hidle : ¬ isIdle s = true := fun h => by
            rw [Path.ofSegment_eq_none_iff.mpr h] at hs
            cases hs
          rw [List.filterMap_cons_some hs, List.cons_append, List.length_cons, dropComponents,
            if_neg hidle, ih]

/-- Names with segments behind them that name nothing. -/
theorem Path.dropIdleEnd_names_append {ds back : List Text} (hds : AreNames ds)
    (hback : ∀ s ∈ back, isIdle s = true) : dropIdleEnd (ds ++ back) = ds := by
  induction back using List.reverseRecOn with
  | nil => rw [List.append_nil, Path.dropIdleEnd_names hds]
  | append_singleton back s ih =>
      rw [← List.append_assoc, Path.dropIdleEnd_concat,
        if_pos (hback s (List.mem_append_right back List.mem_cons_self))]
      exact ih fun u hu => hback u (List.mem_append_left _ hu)

theorem Path.dropIdleEnd_dropWhile {ds back : List Text} (hds : AreNames ds)
    (hback : ∀ s ∈ back, isIdle s = true) :
    dropIdleEnd ((ds ++ back).dropWhile isIdle) = ds := by
  cases ds with
  | nil => rw [List.nil_append, List.dropWhile_eq_nil_iff.mpr hback]; rfl
  | cons n ns =>
      have hn : IsName n := hds n List.mem_cons_self
      rw [List.cons_append, List.dropWhile_cons_of_neg (by simp [hn.isIdle]), ← List.cons_append,
        dropIdleEnd_names_append hds hback]

/-- A path in full, seen from its root. -/
theorem Path.stripBase_of_inFull {root : Path} {t : Text} {upper ds back : List Text}
    (hds : AreNames ds)
    (hupper : .root :: upper.filterMap Component.ofSegment = root.components)
    (hback : ∀ s ∈ back, isIdle s = true)
    (habsolute : Path.isAbsolute ⟨t⟩ = true) (h : segments t = [] :: (upper ++ ds ++ back)) :
    Path.stripBase ⟨t⟩ root = some ⟨joinSegments ds⟩ := by
  obtain ⟨cs, hcs⟩ := Path.isAbsolute_iff.mp habsolute
  obtain rfl : t = '/' :: cs := hcs
  rw [Path.segments_slash] at h
  have hbody : segments cs = upper ++ ds ++ back := (List.cons.inj h).2
  have hlead : Path.lead ⟨'/' :: cs⟩ = .root (upper ++ ds ++ back) := by rw [← hbody]; rfl
  have hstarts : Path.startsWith ⟨'/' :: cs⟩ root = true := by
    refine List.isPrefixOf_iff_prefix.mpr ⟨(ds ++ back).filterMap Component.ofSegment, ?_⟩
    rw [← hupper, Path.components, hlead, List.append_assoc, List.cons_append,
      ← List.filterMap_append]
  unfold Path.stripBase
  rw [if_pos hstarts, hlead, ← hupper]
  simp only [List.length_cons, List.append_assoc, dropWhile_dropComponents]
  rw [dropIdleEnd_dropWhile hds hback]

/-! ### Both -/

/-- **Seen from the root** such a pattern is the names joined by slashes. -/
theorem relativePattern_of_spells {rs ds : List Text} {pattern : Text} (hrs : AreNames rs)
    (hds : AreNames ds) (h : Spells (ofNames rs) ds (Text.trim pattern)) :
    ∃ t, relativePattern (ofNames rs) pattern = some t ∧
      dropTrailingSlashes t = joinSegments ds := by
  cases h with
  | fromRoot front back hfront hback hne hrelative h =>
      have hbase : (ofNames rs).components.head? = some .root := by
        rw [Path.components_ofNames hrs]; rfl
      refine ⟨joinSegments (ds ++ back), ?_, dropTrailingSlashes_joinSegments hds hback⟩
      unfold relativePattern
      simp only [Path.stripBase_of_relative hrelative hbase, hrelative, Bool.false_eq_true,
        if_false, Option.some.injEq]
      rw [← Path.joinSegments_segments (Text.trim pattern), h, List.append_assoc,
        dropDotSlashes_joinSegments hfront hne]
      refine dropDotSlashes_of_head? ?_
      have hslash : ∀ s ∈ ds ++ back, '/' ∉ s := fun s hs => (List.mem_append.mp hs).elim
        (fun hd => (hds s hd).2) fun hb => by rw [hback s hb]; exact List.not_mem_nil
      rw [Path.segments_joinSegments hne hslash]
      intro hhead
      rcases List.mem_append.mp (List.mem_of_mem_head? hhead) with hd | hb
      · exact (hds _ hd).ne_dot rfl
      · cases hback _ hb
  | inFull upper back hupper hback habsolute h =>
      refine ⟨joinSegments ds, ?_, dropTrailingSlashes_names hds⟩
      unfold relativePattern
      simp only [Path.stripBase_of_inFull hds hupper hback habsolute h]

end ImportLint
