import Mathlib.Data.List.Induction
import ImportLint.Proofs.Path.Normal

/-!
# Paths — parents

A parent drops the last component, however the path is spelled.  So the directory of a file that
was named by joining is the directory of the join, up to its spelling.

* `components_parent`: the components of a parent.
* `components_join_name`, `parent_join_name`: joining a name, and taking it off again.
* `normalize_eq_of_join_name`: files of one name with one normal form lie in one directory.
-/

namespace ImportLint.Path

/-! ### Segments that name something -/

theorem dropIdleEnd_concat (init : List Text) (s : Text) :
    dropIdleEnd (init ++ [s]) = if isIdle s then dropIdleEnd init else init ++ [s] := by
  rw [dropIdleEnd, List.reverse_append, List.reverse_singleton, List.singleton_append,
    List.dropWhile_cons]
  split
  · rfl
  · rw [List.reverse_cons, List.reverse_reverse]

/-- Segments end with one that names something and idle ones, or all of them are idle. -/
theorem dropIdleEnd_cases (ss : List Text) :
    dropIdleEnd ss = [] ∧ ss.filterMap Component.ofSegment = [] ∨
      ∃ init s c, dropIdleEnd ss = init ++ [s] ∧
        ss.filterMap Component.ofSegment = init.filterMap Component.ofSegment ++ [c] := by
  induction ss using List.reverseRecOn with
  | nil => exact Or.inl ⟨rfl, rfl⟩
  | append_singleton init s ih =>
      rw [dropIdleEnd_concat, List.filterMap_append]
      cases hc : Component.ofSegment s with
      | none =>
          rw [if_pos (ofSegment_eq_none_iff.mp hc), List.filterMap_cons_none hc,
            List.filterMap_nil, List.append_nil]
          exact ih
      | some c =>
          have hbusy : ¬ isIdle s = true := fun hs => by
            rw [ofSegment_eq_none_iff.mpr hs] at hc
            cases hc
          rw [if_neg hbusy, List.filterMap_cons_some hc]
          exact Or.inr ⟨init, s, c, rfl, rfl⟩

/-- Idle segments at the end name nothing. -/
theorem filterMap_dropIdleEnd (ss : List Text) :
    (dropIdleEnd ss).filterMap Component.ofSegment = ss.filterMap Component.ofSegment := by
  induction ss using List.reverseRecOn with
  | nil => rfl
  | append_singleton init s ih =>
      rw [dropIdleEnd_concat]
      split
      · next hs =>
        rw [ih, List.filterMap_append, List.filterMap_cons_none (ofSegment_eq_none_iff.mpr hs),
          List.filterMap_nil, List.append_nil]
      · rfl

/-- The segments of a parent. -/
def upper (body : List Text) : List Text := dropIdleEnd (dropIdleEnd body).dropLast

/-- What the segments of a parent name: all but the last. -/
theorem filterMap_upper {body : List Text} (h : dropIdleEnd body ≠ []) :
    ∃ c, body.filterMap Component.ofSegment =
      (upper body).filterMap Component.ofSegment ++ [c] := by
  obtain ⟨hnil, -⟩ | ⟨init, s, c, hd, hf⟩ := dropIdleEnd_cases body
  · exact absurd hnil h
  · refine ⟨c, ?_⟩
    rw [upper, filterMap_dropIdleEnd, hd, List.dropLast_concat, hf]

theorem upper_prefix (body : List Text) : ∃ t, body = upper body ++ t := by
  obtain ⟨t, ht⟩ := dropIdleEnd_append body
  obtain ⟨u, hu⟩ := dropIdleEnd_append (dropIdleEnd body).dropLast
  obtain ⟨v, hv⟩ := List.dropLast_prefix (dropIdleEnd body)
  exact ⟨u ++ v ++ t, by rw [upper, ← List.append_assoc, ← List.append_assoc, ← hu, hv, ← ht]⟩

/-! ### The components of a parent -/

/-- Segments that begin neither with an empty one nor with a dot are a path that begins with
neither. -/
theorem components_joinSegments {ss : List Text} (hslash : ∀ s ∈ ss, '/' ∉ s)
    (hhead : ∀ s, ss.head? = some s → s ≠ [] ∧ s ≠ ['.']) :
    (⟨joinSegments ss⟩ : Path).components = ss.filterMap Component.ofSegment := by
  cases ss with
  | nil => rfl
  | cons s ss =>
      have hs := segments_joinSegments (List.cons_ne_nil s ss) hslash
      obtain ⟨hne, hdot⟩ := hhead s rfl
      have ha : Path.isAbsolute ⟨joinSegments (s :: ss)⟩ = false := by
        refine Bool.eq_false_iff.mpr fun ha => ?_
        obtain ⟨t, ht⟩ := isAbsolute_iff.mp ha
        rw [show joinSegments (s :: ss) = '/' :: t from ht, segments_slash] at hs
        exact hne (List.cons.inj hs).1.symm
      rw [components_eq, front, ha, if_neg Bool.false_ne_true, if_neg, named, hs]
      · rfl
      · rw [hs]
        exact fun e => hdot (Option.some.inj e)

theorem head?_segments_ne_nil {p : Path} (ha : p.isAbsolute = false) (hp : p.chars ≠ []) :
    (segments p.chars).head? ≠ some [] := by
  obtain ⟨c, cs, hc⟩ := List.exists_cons_of_ne_nil hp
  have hslash : c ≠ '/' := fun e => not_slash_of_relative ha cs (by rw [hc, e])
  obtain ⟨s, ss, -, hs⟩ := segments_cons hslash cs
  rw [hc, hs]
  exact fun e => List.cons_ne_nil _ _ (Option.some.inj e)

/-- What the segments of a path without slashes in them name, joined again. -/
theorem named_joinSegments_of_slash_not_mem {ss : List Text} (h : ∀ s ∈ ss, '/' ∉ s) :
    named (joinSegments ss) = ss.filterMap Component.ofSegment := by
  cases ss with
  | nil => rfl
  | cons s ss => rw [named, segments_joinSegments (List.cons_ne_nil s ss) h]

theorem slash_not_mem_upper (cs : Text) (start body : List Text)
    (hcs : segments cs = start ++ body) : ∀ s ∈ upper body, '/' ∉ s := by
  intro s hs
  obtain ⟨t, ht⟩ := upper_prefix body
  suffices s ∈ segments cs from slash_not_mem_of_mem_segments this
  rw [hcs, ht]
  exact List.mem_append_right _ (List.mem_append_left _ hs)

theorem components_parent_of_root {cs : Text} {q : Path}
    (h : (⟨'/' :: cs⟩ : Path).parent = some q) :
    q.components = (⟨'/' :: cs⟩ : Path).components.dropLast := by
  have hlead : Path.lead ⟨'/' :: cs⟩ = .root (segments cs) := rfl
  rw [parent, hlead] at h
  simp only at h
  split at h
  · cases h
  · next hne =>
    cases h
    obtain ⟨c, hc⟩ := filterMap_upper hne
    have hnamed := named_joinSegments_of_slash_not_mem
      (slash_not_mem_upper ('/' :: cs) [[]] (segments cs) (segments_slash cs))
    change Component.root :: named (joinSegments (upper (segments cs))) =
      (Component.root :: (segments cs).filterMap Component.ofSegment).dropLast
    rw [hnamed, hc, ← List.cons_append, List.dropLast_concat]

theorem components_parent_of_current {p q : Path} {body : List Text} (ha : p.isAbsolute = false)
    (hs : segments p.chars = ['.'] :: body) (h : p.parent = some q) :
    q.components = p.components.dropLast := by
  have hlead := lead_current ha hs
  have hcomp : p.components = .current :: body.filterMap Component.ofSegment := by
    rw [components, hlead]
  rw [parent, hlead] at h
  simp only at h
  split at h
  · next hnil =>
    cases h
    have hnone : body.filterMap Component.ofSegment = [] := by
      rw [← filterMap_dropIdleEnd, hnil]
      rfl
    rw [hcomp, hnone]
    rfl
  · next hne =>
    cases h
    obtain ⟨c, hc⟩ := filterMap_upper hne
    have hsegments : segments (joinSegments (['.'] :: upper body)) = ['.'] :: upper body := by
      refine segments_joinSegments (List.cons_ne_nil _ _) fun s hm => ?_
      rcases List.mem_cons.mp hm with rfl | hm
      · decide
      · exact slash_not_mem_upper p.chars [['.']] body hs s hm
    have hrelative : Path.isAbsolute ⟨joinSegments (['.'] :: upper body)⟩ = false := by
      cases upper body <;> rfl
    change (⟨joinSegments (['.'] :: upper body)⟩ : Path).components = _
    rw [components, lead_current hrelative hsegments, hcomp, hc, ← List.cons_append,
      List.dropLast_concat]

theorem components_parent_of_plain {p q : Path} (ha : p.isAbsolute = false)
    (hd : (segments p.chars).head? ≠ some ['.']) (h : p.parent = some q) :
    q.components = p.components.dropLast := by
  have hlead := lead_plain ha hd
  have hcomp : p.components = (segments p.chars).filterMap Component.ofSegment := by
    rw [components, hlead]
  rw [parent, hlead] at h
  simp only at h
  split at h
  · cases h
  · next hne =>
    cases h
    obtain ⟨c, hc⟩ := filterMap_upper hne
    have hchars : p.chars ≠ [] := fun e => hne (by rw [e]; rfl)
    have hfirst : ∀ s, (upper (segments p.chars)).head? = some s → s ≠ [] ∧ s ≠ ['.'] := by
      intro s hs
      -- the first segment of the parent is the first one of the path
      obtain ⟨t, ht⟩ := upper_prefix (segments p.chars)
      have hs : (segments p.chars).head? = some s := by
        rw [ht, List.head?_append, hs]
        rfl
      exact ⟨fun e => head?_segments_ne_nil ha hchars (e ▸ hs), fun e => hd (e ▸ hs)⟩
    have hup := components_joinSegments
      (slash_not_mem_upper p.chars [] (segments p.chars) rfl) hfirst
    change (⟨joinSegments (upper (segments p.chars))⟩ : Path).components = _
    rw [hup, hcomp, hc, List.dropLast_concat]

/-- **A parent drops the last component.** -/
theorem components_parent {p q : Path} (h : p.parent = some q) :
    q.components = p.components.dropLast := by
  cases ha : p.isAbsolute with
  | true =>
      obtain ⟨cs, hcs⟩ := isAbsolute_iff.mp ha
      obtain rfl : p = ⟨'/' :: cs⟩ := congrArg Path.mk hcs
      exact components_parent_of_root h
  | false =>
      by_cases hd : (segments p.chars).head? = some ['.']
      · obtain ⟨body, hs⟩ := List.head?_eq_some_iff.mp hd
        exact components_parent_of_current ha hs h
      · exact components_parent_of_plain ha hd h

/-! ### Joining a name -/

/-- A path without parent has no components but a beginning. -/
theorem components_of_parent_eq_none {p : Path} (h : p.parent = none) :
    p.components = [] ∨ p.components = [.root] := by
  have hnone : ∀ body, dropIdleEnd body = [] → body.filterMap Component.ofSegment = [] :=
    fun body hd => by rw [← filterMap_dropIdleEnd, hd]; rfl
  unfold parent at h
  unfold components
  cases hl : p.lead with
  | root body =>
      simp only [hl] at h
      split at h
      · next hd => exact Or.inr (congrArg _ (hnone body hd))
      · cases h
  | current body =>
      simp only [hl] at h
      split at h <;> cases h
  | plain body =>
      simp only [hl] at h
      split at h
      · next hd => exact Or.inl (hnone body hd)
      · cases h

/-- A file in a directory has the components of the directory and its name. -/
theorem components_join_name (dir : Path) {name : Text} (hn : IsNamed (.name name)) :
    (dir.join ⟨name⟩).components = dir.components ++ [.name name] := by
  have hslash : '/' ∉ name := hn.2
  have hsegments : segments name = [name] := segments_of_slash_not_mem hslash
  have hnamed : named name = [.name name] := by
    have hname : Component.ofSegment name = some (.name name) := hn.1
    rw [named, hsegments, List.filterMap_cons_some hname]
    rfl
  have hdot : (segments name).head? ≠ some ['.'] := by
    rw [hsegments]
    intro e
    have hname : name = ['.'] := Option.some.inj e
    have := hn.1
    rw [hname] at this
    cases this
  have hfront : front ⟨name⟩ = [] := by
    rw [front, isAbsolute_of_slash_not_mem hslash, if_neg Bool.false_ne_true, if_neg hdot]
  rw [components_join_of_front hfront, hnamed]

/-- The directory of a file that was joined to it. -/
theorem parent_join_name (dir : Path) {name : Text} (hn : IsNamed (.name name)) :
    ∃ up, (dir.join ⟨name⟩).parent = some up ∧ up.Same dir := by
  have hc := components_join_name dir hn
  cases hp : (dir.join ⟨name⟩).parent with
  | none =>
      obtain h | h := components_of_parent_eq_none hp
      · rw [hc] at h
        exact absurd h (List.append_ne_nil_of_right_ne_nil _ (List.cons_ne_nil _ _))
      · rw [hc] at h
        have hroot : dir.components ++ [.name name] = [] ++ [Component.root] := h
        cases List.append_inj_right' hroot rfl
  | some up =>
      refine ⟨up, rfl, ?_⟩
      rw [Same, components_parent hp, hc, List.dropLast_concat]

/-- **One normal form, one directory**: files of one name are in the same directory if they have
the same normal form. -/
theorem normalize_eq_of_join_name {dir dir' : Path} {name : Text} (hn : IsNamed (.name name))
    (h : (dir.join ⟨name⟩).normalize.components = (dir'.join ⟨name⟩).normalize.components) :
    dir.normalize = dir'.normalize := by
  have hfold : ∀ d : Path, foldComponents (d.join ⟨name⟩).components =
      foldComponents d.components ++ [.name name] := fun d => by
    rw [components_join_name d hn, foldComponents, List.foldl_append]
    change (foldComponent _ (.name name)).reverse = _
    rw [foldComponent_name, List.reverse_cons]
    rfl
  rw [components_normalize, components_normalize, hfold, hfold] at h
  rw [normalize, normalize, List.append_inj_left' h rfl]

end ImportLint.Path
