import Mathlib.Data.List.Forall2
import ImportLint.Proofs.Path.Names

/-!
# Paths — walks upwards

A walk upwards sees what a path names and not how it is spelled: two spellings of one directory
have the same ancestors, one by one.  From a path of names it goes through all beginnings of the
names.

* `parent_eq_none_iff`, `Same.parent`: parents of two spellings of one path.
* `Same.ancestors`: walks from two spellings of one path.
* `mem_ancestors_ofNames`: the ancestors of a path of names.
-/

namespace ImportLint.Path

/-! ### Parents -/

theorem isAbsolute_parent {p up : Path} (hp : p.isAbsolute = true) (h : p.parent = some up) :
    up.isAbsolute = true := by
  obtain ⟨cs, hcs⟩ := isAbsolute_iff.mp hp
  obtain rfl : p = ⟨'/' :: cs⟩ := congrArg Path.mk hcs
  have hlead : Path.lead ⟨'/' :: cs⟩ = .root (segments cs) := rfl
  rw [parent, hlead] at h
  simp only at h
  split at h
  · cases h
  · cases h
    rfl

/-- Only the root and the empty path have no parent. -/
theorem parent_eq_none_iff {p : Path} :
    p.parent = none ↔ p.components = [] ∨ p.components = [.root] := by
  refine ⟨components_of_parent_eq_none, fun h => ?_⟩
  cases hup : p.parent with
  | none => rfl
  | some up =>
      have hnothing : up.chars = [] := by
        rw [← components_eq_nil_iff, components_parent hup]
        rcases h with h | h <;> rw [h] <;> rfl
      rcases h with h | h
      · obtain rfl : p = ⟨[]⟩ := congrArg Path.mk (components_eq_nil_iff.mp h)
        cases hup
      · have hroot : p.Same (ofNames []) := h
        have hp : p.isAbsolute = true := hroot.isAbsolute.trans rfl
        obtain ⟨cs, hcs⟩ := isAbsolute_iff.mp (isAbsolute_parent hp hup)
        rw [hnothing] at hcs
        cases hcs

/-- Two spellings of one path have parents that are spellings of one path, or none. -/
theorem Same.parent {p q : Path} (h : p.Same q) :
    p.parent = none ∧ q.parent = none ∨
      ∃ up up', p.parent = some up ∧ q.parent = some up' ∧ up.Same up' := by
  have hc : p.components = q.components := h
  cases hp : p.parent with
  | none => exact Or.inl ⟨rfl, parent_eq_none_iff.mpr (hc ▸ parent_eq_none_iff.mp hp)⟩
  | some up =>
      cases hq : q.parent with
      | none =>
          rw [parent_eq_none_iff.mpr (hc ▸ parent_eq_none_iff.mp hq)] at hp
          cases hp
      | some up' =>
          refine Or.inr ⟨up, up', rfl, rfl, ?_⟩
          rw [Same, components_parent hp, components_parent hq, hc]

/-! ### Walks -/

theorem ancestors_of_parent_eq_none {p : Path} (h : p.parent = none) : p.ancestors = [p] := by
  rw [ancestors]
  split
  · next up hup => rw [h] at hup; cases hup
  · rfl

theorem ancestors_of_parent_eq_some {p up : Path} (h : p.parent = some up) :
    p.ancestors = p :: if up.chars.isEmpty then [] else up.ancestors := by
  rw [ancestors]
  split
  · next up' hup => rw [h] at hup; cases hup; rfl
  · next hup => rw [h] at hup; cases hup

/-- **Two spellings of one directory** have the same ancestors. -/
theorem Same.ancestors {p q : Path} (h : p.Same q) :
    List.Forall₂ Same p.ancestors q.ancestors := by
  induction p using Path.ancestors.induct generalizing q with
  | case1 p ih =>
      obtain ⟨hp, hq⟩ | ⟨up, up', hp, hq, hup⟩ := h.parent
      · rw [ancestors_of_parent_eq_none hp, ancestors_of_parent_eq_none hq]
        exact .cons h .nil
      · have hempty : up.chars = [] ↔ up'.chars = [] := by
          rw [← components_eq_nil_iff, ← components_eq_nil_iff, show up.components = _ from hup]
        rw [ancestors_of_parent_eq_some hp, ancestors_of_parent_eq_some hq]
        simp only [List.isEmpty_iff, hempty]
        split
        · exact .cons h .nil
        · exact .cons h (ih up hp hup)

/-! ### Paths of names -/

/-- A walk from a path with one name more passes that path and goes on. -/
theorem ancestors_ofNames_concat {ns : List Text} (h : AreNames ns) {n : Text} (hn : IsName n) :
    (ofNames (ns ++ [n])).ancestors = ofNames (ns ++ [n]) :: (ofNames ns).ancestors := by
  rw [ancestors_of_parent_eq_some (parent_ofNames_concat h hn)]
  rfl

/-- **The ancestors of a path of names** are the paths with the beginnings of the names. -/
theorem mem_ancestors_ofNames {ns : List Text} (h : AreNames ns) {p : Path} :
    p ∈ (ofNames ns).ancestors ↔ ∃ up, up <+: ns ∧ p = ofNames up := by
  rw [ancestors_ofNames h, List.mem_map]
  simp only [List.mem_reverse, List.mem_inits, eq_comm]

end ImportLint.Path
