import ImportLint.Proofs.Path.Ancestors
import ImportLint.Proofs.Path.Endings

/-!
# Paths — without steps upwards

An absolute path names what its normal form names unless one of its segments is `..`.  Parents,
joins and endings of such paths are such paths.

* `same_normalize_iff`: of an absolute path only steps upwards are folded away.
* `IsRooted`: an absolute path, which is free of steps upwards under a condition.
* `IsRooted.join`, `IsRooted.parent`, `IsRooted.leading`, `IsRooted.withSuffix`: what keeps it.
-/

namespace ImportLint.Path

/-! ### Normal forms of absolute paths -/

/-- Components that segments name, without steps upwards, are names. -/
theorem exists_map_name {cs : List Component} (h : ∀ c ∈ cs, IsNamed c)
    (hup : Component.parent ∉ cs) : ∃ ns, AreNames ns ∧ cs = ns.map .name := by
  induction cs with
  | nil => exact ⟨[], areNames_nil, rfl⟩
  | cons c cs ih =>
      have hc := h c List.mem_cons_self
      obtain ⟨ns, hns, rfl⟩ := ih (fun d hd => h d (List.mem_cons_of_mem c hd))
        fun hd => hup (List.mem_cons_of_mem c hd)
      cases c with
      | root => exact absurd rfl hc.ne_root
      | current => exact absurd rfl hc.ne_current
      | parent => exact absurd List.mem_cons_self hup
      | name n => exact ⟨n :: ns, List.forall_mem_cons.mpr ⟨hc, hns⟩, rfl⟩

/-- **Of an absolute path** only steps upwards are folded away. -/
theorem same_normalize_iff {p : Path} (hp : p.isAbsolute = true) :
    p.Same p.normalize ↔ Component.parent ∉ p.components := by
  refine ⟨fun h => ?_, fun h => ?_⟩
  · obtain ⟨ns, hns, hnorm⟩ := exists_normalize_eq_ofNames hp
    rw [show p.components = _ from h, hnorm, components_ofNames hns]
    simp
  · have hfront := front_of_isAbsolute hp
    rw [components_eq, hfront] at h
    have hall : ∀ c ∈ named p.chars, IsNamed c := fun c hc => isNamed_of_mem_named hc
    obtain ⟨ns, hns, hnamed⟩ := exists_map_name hall fun hm => h (List.mem_append_right _ hm)
    have hsame : p.Same (ofNames ns) := by
      rw [Same, components_eq, hfront, hnamed, components_ofNames hns]
      rfl
    rw [normalize_eq_of_same hsame, normalize_ofNames hns]
    exact hsame

/-- A text names a step upwards if one of its segments is `..`. -/
theorem parent_mem_named_iff {cs : Text} :
    Component.parent ∈ named cs ↔ ['.', '.'] ∈ segments cs := by
  rw [named, List.mem_filterMap]
  constructor
  · rintro ⟨s, hs, hc⟩
    rwa [← show s = ['.', '.'] from (chars_ofSegment hc).symm]
  · exact fun h => ⟨_, h, rfl⟩

/-! ### Rooted paths -/

/-- An absolute path; if `c` holds, one without steps upwards. -/
def IsRooted (c : Prop) (p : Path) : Prop :=
  p.isAbsolute = true ∧ (c → Component.parent ∉ p.components)

namespace IsRooted

variable {c : Prop} {p q : Path}

theorem of_same (h : p.IsRooted c) (hpq : p.Same q) : q.IsRooted c :=
  ⟨hpq.isAbsolute ▸ h.1, fun hc => show Component.parent ∉ q.components from hpq ▸ h.2 hc⟩

theorem same_normalize (h : p.IsRooted c) (hc : c) : p.Same p.normalize :=
  (same_normalize_iff h.1).mpr (h.2 hc)

theorem of_same_normalize (c : Prop) (hp : p.isAbsolute = true) (h : p.Same p.normalize) :
    p.IsRooted c :=
  ⟨hp, fun _ => (same_normalize_iff hp).mp h⟩

/-- A normal form has no steps upwards. -/
theorem normalize (c : Prop) (hp : p.isAbsolute = true) : p.normalize.IsRooted c := by
  obtain ⟨ns, hns, hnorm⟩ := exists_normalize_eq_ofNames hp
  refine of_same_normalize c ?_ ?_
  · rw [hnorm]; rfl
  · rw [normalize_normalize]; exact rfl

theorem join (h : p.IsRooted c) (hq : q.isAbsolute = false)
    (hup : c → ['.', '.'] ∉ segments q.chars) : (p.join q).IsRooted c := by
  refine ⟨isAbsolute_join h.1 q, fun hc hm => ?_⟩
  rw [components_join hq (chars_ne_nil_of_isAbsolute h.1)] at hm
  rcases List.mem_append.mp hm with hm | hm
  · exact h.2 hc hm
  · exact hup hc (parent_mem_named_iff.mp hm)

theorem join_name (h : p.IsRooted c) {n : Text} (hn : IsName n) : (p.join ⟨n⟩).IsRooted c := by
  have hslash : '/' ∉ n := hn.2
  refine h.join (isAbsolute_of_slash_not_mem hslash) fun _ hm => ?_
  change _ ∈ segments n at hm
  rw [segments_of_slash_not_mem hslash, List.mem_singleton] at hm
  subst hm
  cases hn.1

theorem parent (h : p.IsRooted c) (hup : p.parent = some q) : q.IsRooted c := by
  refine ⟨isAbsolute_parent h.1 hup, fun hc hm => h.2 hc ?_⟩
  rw [components_parent hup] at hm
  exact List.mem_of_mem_dropLast hm

theorem leading (h : p.IsRooted c) : p.leading.IsRooted c := by
  refine ⟨isAbsolute_leading h.1, fun hc hm => h.2 hc ?_⟩
  rw [components_eq_leading h.1]
  exact List.mem_append_left _ hm

/-- Whatever the last segment is: with an ending it is a name. -/
theorem withSuffix (h : p.leading.IsRooted c) {suffix : Text} (hs : '/' ∉ suffix)
    (hl : 3 ≤ suffix.length) : (p.withSuffix suffix).IsRooted c := by
  rw [p.withSuffix_eq_join hs]
  exact h.join_name (p.isName_lastSegment_append hs hl)

/-- The last segment of a path with a file name is no step upwards. -/
theorem of_fileName (h : p.leading.IsRooted c) {n : Text} (hn : p.fileName = some n) :
    p.IsRooted c := by
  have hp := isAbsolute_of_leading h.1
  refine ⟨hp, fun hc hm => ?_⟩
  rw [components_eq_leading hp] at hm
  rcases List.mem_append.mp hm with hm | hm
  · exact h.2 hc hm
  · rw [parent_mem_named_iff, segments_of_slash_not_mem p.slash_not_mem_lastSegment,
      List.mem_singleton] at hm
    have hlast : p.components.getLast? = some .parent := by
      rw [components_eq_leading hp, ← hm, List.getLast?_append]
      rfl
    rw [fileName, hlast] at hn
    cases hn

end IsRooted

end ImportLint.Path
