import Mathlib.Data.List.Lex
import Mathlib.Data.List.Sort
import Mathlib.Order.RelClasses
import ImportLint.Proofs.Path.Names

/-!
# Paths — their order

Paths are listed component by component, and names character by character.  That is a strict
order, and it is total up to the spelling of paths.

* `before_trans`, `same_of_not_before`: the order of paths.
* `pairwise_sorted`: a list that was put in order increases strictly.
* `mem_sorted`: of normal forms it has what was there before.
* `eq_of_pairwise_before`: a strictly increasing list is told by its members.
-/

namespace ImportLint

/-- Lists in the order of their first difference are strictly and totally ordered. -/
theorem isStrictTotalOrder_lex {α : Type} (r : α → α → Prop) [IsStrictTotalOrder α r] :
    IsStrictTotalOrder (List α) (List.Lex r) where
  trans _ _ _ := List.lex_trans fun h h' => Trans.trans h h'

/-! ### Texts and components -/

/-- The order of characters. -/
def charBefore (a b : Char) : Prop := a.toNat < b.toNat

instance : IsStrictTotalOrder Char charBefore where
  trichotomous _ _ h h' := Char.toNat_inj.mp (Nat.le_antisymm (Nat.not_lt.mp h') (Nat.not_lt.mp h))
  irrefl a := Nat.lt_irrefl a.toNat
  trans _ _ _ := Nat.lt_trans

theorem Text.before_iff_lex {s t : Text} : Text.before s t = true ↔ List.Lex charBefore s t := by
  induction s generalizing t with
  | nil => cases t <;> simp [Text.before]
  | cons a s ih =>
      cases t with
      | nil => simp [Text.before]
      | cons b t => simp [Text.before, List.cons_lex_cons_iff, ih, charBefore]

namespace Component

/-- The order of components. -/
def Before (a b : Component) : Prop := a.before b = true

theorem before_name_iff {m n : Text} : Before (.name m) (.name n) ↔ List.Lex charBefore m n :=
  Text.before_iff_lex

instance : IsStrictTotalOrder Component Before where
  trichotomous a b h h' := by
    cases a <;> cases b <;> first
      | rfl
      | exact absurd rfl h
      | exact absurd rfl h'
      | rw [before_name_iff] at h h'
        exact congrArg name ((isStrictTotalOrder_lex charBefore).trichotomous _ _ h h')
  irrefl a h := by
    cases a with
    | name n => exact (isStrictTotalOrder_lex charBefore).irrefl n (before_name_iff.mp h)
    | root => cases h
    | current => cases h
    | parent => cases h
  trans a b c h h' := by
    cases a <;> cases b <;> cases c <;> first
      | rfl
      | exact absurd h Bool.false_ne_true
      | exact absurd h' Bool.false_ne_true
      | rw [before_name_iff] at h h' ⊢
        exact (isStrictTotalOrder_lex charBefore).trans _ _ _ h h'

end Component

namespace Path

theorem componentsBefore_iff_lex {as bs : List Component} :
    componentsBefore as bs = true ↔ List.Lex Component.Before as bs := by
  induction as generalizing bs with
  | nil => cases bs <;> simp [componentsBefore]
  | cons a as ih =>
      cases bs with
      | nil => simp [componentsBefore]
      | cons b bs => simp [componentsBefore, List.cons_lex_cons_iff, ih, Component.Before]

variable {p q r : Path} {ps qs : List Path}

theorem before_iff_lex :
    p.before q = true ↔ List.Lex Component.Before p.components q.components :=
  componentsBefore_iff_lex

theorem not_before_self (p : Path) : ¬ p.before p = true := fun h =>
  (isStrictTotalOrder_lex Component.Before).irrefl _ (before_iff_lex.mp h)

theorem before_trans (h : p.before q = true) (h' : q.before r = true) : p.before r = true :=
  before_iff_lex.mpr ((isStrictTotalOrder_lex Component.Before).trans _ _ _
    (before_iff_lex.mp h) (before_iff_lex.mp h'))

/-- Paths of which neither is before the other are one path. -/
theorem same_of_not_before (h : ¬ p.before q = true) (h' : ¬ q.before p = true) : p.Same q :=
  (isStrictTotalOrder_lex Component.Before).trichotomous _ _ (fun hl => h (before_iff_lex.mpr hl))
    fun hl => h' (before_iff_lex.mpr hl)

theorem before_of_not_before (h : p.before q = true) (h' : ¬ r.before q = true) :
    p.before r = true := by
  by_contra hpr
  by_cases hrp : r.before p = true
  · exact h' (before_trans hrp h)
  · have hsame : p.components = r.components := same_of_not_before hpr hrp
    rw [before, hsame] at h
    exact h' h

/-! ### Lists in order -/

/-- Lists that go on with a larger path, or with the same one. -/
abbrev Ascending (ps : List Path) : Prop := ps.Pairwise fun p q => ¬ q.before p = true

theorem ascending_mergeSort (ps : List Path) :
    Ascending (ps.mergeSort fun p q => !(q.before p)) := by
  refine (List.pairwise_mergeSort (fun p q r hpq hqr => ?_) (fun p q => ?_) ps).imp fun hpq => ?_
  · rw [Bool.not_eq_true'] at hpq hqr ⊢
    -- were `r` before `p`, it would be before `q`
    refine Bool.eq_false_iff.mpr fun hrp => ?_
    rw [before_of_not_before hrp (Bool.eq_false_iff.mp hpq)] at hqr
    cases hqr
  · rw [Bool.or_eq_true, Bool.not_eq_true', Bool.not_eq_true']
    by_contra h
    obtain ⟨hqp, hpq⟩ := not_or.mp h
    rw [Bool.not_eq_false] at hqp hpq
    exact not_before_self p (before_trans hpq hqp)
  · simpa using hpq

/-- Neighbours that are one path are made one, and nothing else goes. -/
theorem dedup_spec (h : Ascending ps) :
    (sorted.dedup ps).Pairwise (fun p q => p.before q = true) ∧ sorted.dedup ps ⊆ ps ∧
      ∀ p ∈ ps, ∃ q ∈ sorted.dedup ps, q.Same p := by
  induction ps using sorted.dedup.induct with
  | case1 =>
      rw [sorted.dedup]
      exact ⟨List.Pairwise.nil, List.Subset.refl _, fun p hp => nomatch hp⟩
  | case2 p =>
      rw [sorted.dedup]
      exact ⟨List.pairwise_singleton _ p, List.Subset.refl _, fun q hq => ⟨q, hq, rfl⟩⟩
  | case3 p q r hsame ih =>
      obtain ⟨hp, hq, hr⟩ := (List.pairwise_cons.mp h).imp_right List.pairwise_cons.mp
      obtain ⟨hpair, hsub, hall⟩ := ih (List.pairwise_cons.mpr
        ⟨fun x hx => hp x (List.mem_cons_of_mem q hx), hr⟩)
      rw [sorted.dedup, if_pos hsame]
      refine ⟨hpair, fun x hx => ?_, fun x hx => ?_⟩
      · exact List.cons_subset_cons p (List.subset_cons_self q r) (hsub hx)
      · rcases List.mem_cons.mp hx with rfl | hx
        · exact hall x List.mem_cons_self
        · rcases List.mem_cons.mp hx with rfl | hx
          · obtain ⟨y, hy, hyp⟩ := hall p List.mem_cons_self
            exact ⟨y, hy, hyp.trans hsame⟩
          · exact hall x (List.mem_cons_of_mem p hx)
  | case4 p q r hne ih =>
      obtain ⟨hp, hqr⟩ := List.pairwise_cons.mp h
      obtain ⟨hq, -⟩ := List.pairwise_cons.mp hqr
      obtain ⟨hpair, hsub, hall⟩ := ih hqr
      have hpq : p.before q = true := by
        by_contra hpq
        exact hne (same_of_not_before hpq (hp q List.mem_cons_self))
      rw [sorted.dedup, if_neg hne]
      refine ⟨List.pairwise_cons.mpr ⟨fun x hx => ?_, hpair⟩, ?_, fun x hx => ?_⟩
      · rcases List.mem_cons.mp (hsub hx) with rfl | hx
        · exact hpq
        · exact before_of_not_before hpq (hq x hx)
      · exact List.cons_subset_cons p hsub
      · rcases List.mem_cons.mp hx with rfl | hx
        · exact ⟨x, List.mem_cons_self, rfl⟩
        · obtain ⟨y, hy, hyx⟩ := hall x hx
          exact ⟨y, List.mem_cons_of_mem p hy, hyx⟩

/-- **A list in order** increases strictly. -/
theorem pairwise_sorted (ps : List Path) :
    (sorted ps).Pairwise fun p q => p.before q = true :=
  (dedup_spec (ascending_mergeSort ps)).1

theorem mem_of_mem_sorted (h : p ∈ sorted ps) : p ∈ ps :=
  List.mem_mergeSort.mp ((dedup_spec (ascending_mergeSort ps)).2.1 h)

theorem exists_mem_sorted (h : p ∈ ps) : ∃ q ∈ sorted ps, q.Same p :=
  (dedup_spec (ascending_mergeSort ps)).2.2 p (List.mem_mergeSort.mpr h)

/-- **Normal forms** stay when they are put in order. -/
theorem mem_sorted (h : ∀ p ∈ ps, p.normalize = p) : p ∈ sorted ps ↔ p ∈ ps := by
  refine ⟨mem_of_mem_sorted, fun hp => ?_⟩
  obtain ⟨q, hq, hsame⟩ := exists_mem_sorted hp
  rw [← h p hp, ← normalize_eq_of_same hsame, h q (mem_of_mem_sorted hq)]
  exact hq

/-- **A strictly increasing list** is told by its members. -/
theorem eq_of_pairwise_before (hps : ps.Pairwise fun p q => p.before q = true)
    (hqs : qs.Pairwise fun p q => p.before q = true) (h : ∀ p, p ∈ ps ↔ p ∈ qs) : ps = qs := by
  have : Std.Irrefl fun p q : Path => p.before q = true := ⟨not_before_self⟩
  have : Std.Antisymm fun p q : Path => p.before q = true :=
    ⟨fun p q hpq hqp => absurd (before_trans hpq hqp) (not_before_self p)⟩
  exact hps.eq_of_mem_iff hqs h

end Path

end ImportLint
