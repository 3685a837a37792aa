import Mathlib.Data.List.Flatten
import ImportLint.Checking.Source
import ImportLint.Proofs.Checking.References

/-!
# Checking — the literals that are collected

The references of a source are string literals in it.  They are collected in the order in which
they are written, and none is collected twice: each part of a tree is looked at once, and a call
that loads a module is not looked into.

* `Syntax.Tree.literals`, `Syntax.Tree.inside`: the string literals and the trees in a tree.
* `Syntax.Tree.named?`, `Syntax.Tree.spread?`: the literal that names the module to load, and one
  that stands in its place behind three dots.
* `Syntax.Collected`: references that are literals, each once and in the order of their trees.
* `Syntax.AreLaidOut`: trees whose parts stand in them, one behind the other.
* `SourceFacts.references_ordered`: the references of such trees stand one behind the other.
* `SourceFacts.spread_collected`: a literal that names no module can be collected.
-/

namespace ImportLint

namespace Syntax

/-! ### Literals -/

/-- A string literal and where it stands. -/
structure Literal where
  value : Text
  span : Span
deriving DecidableEq, Repr

/-- The reference that a literal is. -/
def Literal.reference (l : Literal) : Reference :=
  ⟨l.value, l.span.lo, max (l.span.hi - l.span.lo) 1⟩

/-- The literal that a tree is. -/
def Literal.ofTree? : Tree → Option Literal
  | .node (.string value) span _ => some ⟨value, span⟩
  | _ => none

theorem Literal.map_ofTree? (t : Tree) :
    (ofTree? t).map Literal.reference = Reference.ofTree? t := by
  obtain ⟨k, span, parts⟩ := t
  cases k <;> rfl

mutual

/-- The string literals in a tree.  The strings in the tags of markup are none: they have no
escapes. -/
def Tree.literals : Tree → List Literal
  | .node (.string value) span _ => [⟨value, span⟩]
  | .node .markup _ _ => []
  | .node _ _ parts => partLiterals parts

/-- The string literals in some trees. -/
def partLiterals : List Tree → List Literal
  | [] => []
  | t :: ts => t.literals ++ partLiterals ts

end

theorem partLiterals_eq_flatMap (ts : List Tree) : partLiterals ts = ts.flatMap Tree.literals := by
  induction ts with
  | nil => rfl
  | cons t ts ih => rw [partLiterals, ih, List.flatMap_cons]

/-- The trees of a kind have the literals of their parts: a string is a literal itself, and markup
has none. -/
def Kind.isOpen : Kind → Bool
  | .string _ | .markup => false
  | _ => true

theorem Kind.isOpen_cases (k : Kind) :
    (∃ value, k = .string value) ∨ k = .markup ∨ k.isOpen = true := by
  cases k with
  | string value => exact Or.inl ⟨value, rfl⟩
  | markup => exact Or.inr (Or.inl rfl)
  | _ => exact Or.inr (Or.inr rfl)

theorem Tree.literals_of_isOpen {k : Kind} (hk : k.isOpen = true) (span : Span)
    (parts : List Tree) : Tree.literals (.node k span parts) = parts.flatMap Tree.literals := by
  rw [← partLiterals_eq_flatMap]
  cases k with
  | string value => cases hk
  | markup => cases hk
  | _ => rfl

/-- A literal has no literals but itself. -/
theorem Tree.literals_of_ofTree? {t : Tree} {l : Literal} (h : Literal.ofTree? t = some l) :
    t.literals = [l] := by
  unfold Literal.ofTree? at h
  split at h
  · cases h
    rfl
  · cases h

/-! ### Trees in trees -/

mutual

/-- A tree and all trees in it, each before its parts. -/
def Tree.inside : Tree → List Tree
  | .node k span parts => .node k span parts :: insideParts parts

/-- Some trees and all trees in them. -/
def insideParts : List Tree → List Tree
  | [] => []
  | t :: ts => t.inside ++ insideParts ts

end

theorem insideParts_eq_flatMap (ts : List Tree) : insideParts ts = ts.flatMap Tree.inside := by
  induction ts with
  | nil => rfl
  | cons t ts ih => rw [insideParts, ih, List.flatMap_cons]

theorem Tree.inside_node (k : Kind) (span : Span) (parts : List Tree) :
    Tree.inside (.node k span parts) = .node k span parts :: parts.flatMap Tree.inside := by
  rw [Tree.inside, insideParts_eq_flatMap]

/-! ### What is collected -/

/-- The literal by which a declaration or a call names the module that it loads: the source of
the declaration, or the first argument of the call. -/
def Tree.named? : Tree → Option Literal
  | .node .importFrom _ (source :: _) | .node .exportAll _ (source :: _)
  | .node .exportNames _ (source :: _) | .node .importEquals _ (source :: _) =>
    Literal.ofTree? source
  | .node .call _ (callee :: argument :: _) =>
    if callee.loads then Literal.ofTree? argument else none
  | _ => none

/-- The literal behind three dots that stands where a call names the module that it loads. -/
def Tree.spread? : Tree → Option Literal
  | .node .call _ (callee :: .node .spread _ [e] :: _) =>
    if callee.loads then Literal.ofTree? e else none
  | _ => none

/-- The references are literals of the trees, each at most once and in the order in which they
are written, and each stands where a module to load is named. -/
def Collected (ts : List Tree) (rs : List Reference) : Prop :=
  ∃ ls : List Literal, rs = ls.map Literal.reference ∧ ls.Sublist (ts.flatMap Tree.literals) ∧
    ∀ l ∈ ls, ∃ u ∈ ts.flatMap Tree.inside, u.named? = some l ∨ u.spread? = some l

namespace Collected

variable {ts us : List Tree} {rs ss : List Reference}

theorem nil (ts : List Tree) : Collected ts [] :=
  ⟨[], rfl, List.nil_sublist _, fun _ h => absurd h List.not_mem_nil⟩

theorem append (h : Collected ts rs) (g : Collected us ss) : Collected (ts ++ us) (rs ++ ss) := by
  obtain ⟨ls, rfl, hls, hnamed⟩ := h
  obtain ⟨ms, rfl, hms, hnamed'⟩ := g
  refine ⟨ls ++ ms, List.map_append.symm, ?_, fun l hl => ?_⟩
  · rw [List.flatMap_append]
    exact hls.append hms
  · rw [List.flatMap_append]
    rcases List.mem_append.mp hl with hl | hl
    · obtain ⟨u, hu, h⟩ := hnamed l hl
      exact ⟨u, List.mem_append_left _ hu, h⟩
    · obtain ⟨u, hu, h⟩ := hnamed' l hl
      exact ⟨u, List.mem_append_right _ hu, h⟩

theorem mono (h : Collected ts rs) (hts : ts.Sublist us) : Collected us rs := by
  obtain ⟨ls, hrs, hls, hnamed⟩ := h
  refine ⟨ls, hrs, hls.trans (hts.flatMap _), fun l hl => ?_⟩
  obtain ⟨u, hu, h⟩ := hnamed l hl
  exact ⟨u, (hts.flatMap _).subset hu, h⟩

/-- What is collected from each of some trees is collected from them one after the other. -/
theorem flatMap (h : ∀ t ∈ ts, Collected [t] t.references) :
    Collected ts (ts.flatMap Tree.references) := by
  induction ts with
  | nil => exact nil []
  | cons t ts ih =>
      rw [List.flatMap_cons]
      exact (h t List.mem_cons_self).append (ih fun u hu => h u (List.mem_cons_of_mem t hu))

/-- What is collected from the parts of a tree. -/
theorem node {k : Kind} (hk : k.isOpen = true) {span : Span} {parts : List Tree}
    (h : Collected parts rs) : Collected [.node k span parts] rs := by
  obtain ⟨ls, hrs, hls, hnamed⟩ := h
  rw [← Tree.literals_of_isOpen hk span parts, ← List.flatMap_singleton Tree.literals] at hls
  refine ⟨ls, hrs, hls, fun l hl => ?_⟩
  obtain ⟨u, hu, h⟩ := hnamed l hl
  rw [List.flatMap_singleton, Tree.inside_node]
  exact ⟨u, List.mem_cons_of_mem _ hu, h⟩

/-- What a tree itself names, given the part that holds it. -/
theorem own {k : Kind} (hk : k.isOpen = true) {span : Span} {parts : List Tree} {p : Tree}
    (hp : p ∈ parts) {l? : Option Literal} (hl : l?.toList.Sublist p.literals)
    (h : ∀ l, l? = some l → Tree.named? (.node k span parts) = some l ∨
      Tree.spread? (.node k span parts) = some l) :
    Collected [.node k span parts] (l?.map Literal.reference).toList := by
  refine ⟨l?.toList, by cases l? <;> rfl, ?_, fun l hmem => ?_⟩
  · rw [← List.flatMap_singleton Tree.literals p] at hl
    rw [List.flatMap_singleton, Tree.literals_of_isOpen hk]
    exact hl.trans ((List.singleton_sublist.mpr hp).flatMap _)
  · rw [List.flatMap_singleton, Tree.inside_node]
    exact ⟨_, List.mem_cons_self, h l (Option.mem_toList.mp hmem)⟩

end Collected

theorem Kind.select_sublist {α : Type} (k : Kind) (xs : List α) : (k.select xs).Sublist xs := by
  have all := List.Sublist.refl xs
  have none := List.nil_sublist xs
  cases k with
  | typed form => cases form <;> first | exact all | exact none
  | _ =>
    first | exact all | exact none | exact List.drop_sublist _ _ | exact List.take_sublist _ _

theorem Kind.select_map {α β : Type} (k : Kind) (f : α → β) (xs : List α) :
    k.select (xs.map f) = (k.select xs).map f := by
  cases k with
  | typed form => cases form <;> rfl
  | _ =>
    first
    | rfl
    | exact List.map_drop.symm
    | exact List.map_take.symm
    | simp only [Kind.select, List.length_map, List.map_drop]

theorem Literal.toList_ofTree?_sublist (t : Tree) : (ofTree? t).toList.Sublist t.literals := by
  cases h : ofTree? t with
  | none => exact List.nil_sublist _
  | some l =>
      rw [Tree.literals_of_ofTree? h]
      exact List.Sublist.refl _

namespace Collected

variable {span : Span} {parts : List Tree}

/-- What is collected from a call that loads a module. -/
theorem ofArguments {callee : Tree} (hloads : callee.loads = true) (arguments : List Tree) :
    Collected [.node .call span (callee :: arguments)]
      (Reference.ofArguments? arguments).toList := by
  unfold Reference.ofArguments?
  split
  · next s e rest =>
    rw [← Literal.map_ofTree?]
    refine own rfl (p := .node .spread s [e])
      (List.mem_cons_of_mem _ List.mem_cons_self) ?_ fun l hl => Or.inr ?_
    · rw [Tree.literals_of_isOpen rfl, List.flatMap_singleton]
      exact Literal.toList_ofTree?_sublist e
    · rw [Tree.spread?, if_pos hloads, hl]
  · next t rest _ =>
    rw [← Literal.map_ofTree?]
    refine own rfl (List.mem_cons_of_mem _ List.mem_cons_self)
      (Literal.toList_ofTree?_sublist t) fun l hl => Or.inl ?_
    rw [Tree.named?, if_pos hloads, hl]
  · exact nil _

/-- What is collected from the parts that are looked at. -/
theorem select {k : Kind} (h : ∀ t ∈ parts, Collected [t] t.references) :
    Collected [.node k span parts] (k.select (parts.map Tree.references)).flatten := by
  rw [k.select_map, ← List.flatMap_def]
  have hparts : Collected parts ((k.select parts).flatMap Tree.references) :=
    (flatMap fun t ht => h t ((k.select_sublist parts).subset ht)).mono (k.select_sublist parts)
  obtain ⟨value, rfl⟩ | rfl | hk := k.isOpen_cases
  · exact nil _
  · exact nil _
  · exact hparts.node hk

/-- What a tree gives is what it names itself, or what is collected from its parts. -/
theorem gather (k : Kind) (h : ∀ t ∈ parts, Collected [t] t.references) :
    Collected [.node k span parts] (Tree.gather k parts (parts.map Tree.references)) := by
  have source : ∀ t rest, parts = t :: rest → k.isOpen = true →
      Tree.named? (.node k span parts) = Literal.ofTree? t →
      Collected [.node k span parts] (Reference.ofTree? t).toList := by
    rintro t rest rfl hk hnamed
    rw [← Literal.map_ofTree?]
    exact own hk List.mem_cons_self (Literal.toList_ofTree?_sublist t) fun l hl =>
      Or.inl (hnamed.trans hl)
  unfold Tree.gather
  split
  · exact source _ _ rfl rfl rfl
  · exact source _ _ rfl rfl rfl
  · exact source _ _ rfl rfl rfl
  · exact source _ _ rfl rfl rfl
  · split
    · next hloads => exact ofArguments hloads _
    · exact select (k := .call) h
  · exact select h

end Collected

mutual

/-- **The references in a tree are collected.** -/
theorem Tree.collected_references : ∀ t : Tree, Collected [t] t.references
  | .node k span parts => by
      rw [Tree.references, partReferences_eq_map]
      exact Collected.gather k (collected_references_of_mem parts)

theorem collected_references_of_mem : ∀ ts : List Tree, ∀ t ∈ ts, Collected [t] t.references
  | [], _, h => by cases h
  | t :: ts, u, h => by
      rcases List.mem_cons.mp h with e | h
      · exact e ▸ t.collected_references
      · exact collected_references_of_mem ts u h

end

theorem Tree.references_subset (t : Tree) :
    t.references ⊆ t.literals.map Literal.reference := by
  obtain ⟨ls, hrs, hls, -⟩ := t.collected_references
  rw [List.flatMap_singleton] at hls
  exact hrs ▸ List.map_subset _ hls.subset

/-! ### Trees that are laid out -/

/-- The first span ends before the second one begins. -/
def Span.IsBefore (a b : Span) : Prop := a.hi ≤ b.lo

instance (a b : Span) : Decidable (a.IsBefore b) := inferInstanceAs (Decidable (a.hi ≤ b.lo))

/-- A span lies in another one. -/
def Span.IsIn (a b : Span) : Prop := b.lo ≤ a.lo ∧ a.hi ≤ b.hi

instance (a b : Span) : Decidable (a.IsIn b) :=
  inferInstanceAs (Decidable (b.lo ≤ a.lo ∧ a.hi ≤ b.hi))

/-- Trees stand one behind the other. -/
abbrev AreInOrder (ts : List Tree) : Prop := ts.Pairwise fun a b => a.span.IsBefore b.span

/-- The parts of a tree stand in it, one behind the other. -/
abbrev Tree.IsLaidOut (t : Tree) : Prop :=
  (∀ p ∈ t.parts, p.span.IsIn t.span) ∧ AreInOrder t.parts

/-- Some trees stand one behind the other, and in each of them, and in all trees in it, the parts
do. -/
abbrev AreLaidOut (ts : List Tree) : Prop :=
  AreInOrder ts ∧ ∀ t ∈ ts.flatMap Tree.inside, t.IsLaidOut

/-- The literals of a tree stand in it, one behind the other. -/
def Tree.HoldsLiterals (t : Tree) : Prop :=
  (∀ l ∈ t.literals, l.span.IsIn t.span) ∧ t.literals.Pairwise fun a b => a.span.IsBefore b.span

/-- The literals of trees that stand one behind the other do so too. -/
theorem pairwise_literals {ts : List Tree} (horder : AreInOrder ts)
    (h : ∀ t ∈ ts, t.HoldsLiterals) :
    (ts.flatMap Tree.literals).Pairwise fun a b => a.span.IsBefore b.span := by
  refine List.pairwise_flatMap.mpr ⟨fun t ht => (h t ht).2, ?_⟩
  refine horder.imp_of_mem fun {t u} ht hu htu a ha b hb => ?_
  have hat := (h t ht).1 a ha
  have hbu := (h u hu).1 b hb
  exact Nat.le_trans hat.2 (Nat.le_trans htu hbu.1)

theorem Tree.holdsLiterals_of_parts {k : Kind} {span : Span} {parts : List Tree}
    (ht : Tree.IsLaidOut (.node k span parts)) (h : ∀ p ∈ parts, p.HoldsLiterals) :
    Tree.HoldsLiterals (.node k span parts) := by
  obtain ⟨value, rfl⟩ | rfl | hk := k.isOpen_cases
  · refine ⟨fun l hl => ?_, List.pairwise_singleton _ _⟩
    rw [List.mem_singleton.mp hl]
    exact ⟨Nat.le_refl _, Nat.le_refl _⟩
  · exact ⟨fun l hl => (nomatch hl), List.Pairwise.nil⟩
  · rw [HoldsLiterals, Tree.literals_of_isOpen hk]
    refine ⟨fun l hl => ?_, pairwise_literals ht.2 h⟩
    obtain ⟨p, hp, hl⟩ := List.mem_flatMap.mp hl
    have hlp := (h p hp).1 l hl
    have hpt := ht.1 p hp
    exact ⟨Nat.le_trans hpt.1 hlp.1, Nat.le_trans hlp.2 hpt.2⟩

mutual

/-- **The literals of a tree** that is laid out stand in it, one behind the other. -/
theorem Tree.holdsLiterals : ∀ t : Tree, (∀ u ∈ t.inside, u.IsLaidOut) → t.HoldsLiterals
  | .node k span parts, h => by
      rw [Tree.inside_node] at h
      exact Tree.holdsLiterals_of_parts (h _ List.mem_cons_self)
        (holdsLiterals_of_mem parts fun u hu => h u (List.mem_cons_of_mem _ hu))

theorem holdsLiterals_of_mem : ∀ ts : List Tree,
    (∀ u ∈ ts.flatMap Tree.inside, u.IsLaidOut) → ∀ t ∈ ts, t.HoldsLiterals
  | [], _, _, hmem => by cases hmem
  | t :: ts, h, u, hmem => by
      rw [List.flatMap_cons] at h
      rcases List.mem_cons.mp hmem with e | hmem
      · exact e ▸ t.holdsLiterals fun v hv => h v (List.mem_append_left _ hv)
      · exact holdsLiterals_of_mem ts (fun v hv => h v (List.mem_append_right _ hv)) u hmem

end

end Syntax

/-! ### Modules -/

/-- What is checked of the trees of a module, where it has some. -/
theorem Syntax.Module.exists_items {m : Module} {P : List Tree → Prop} [DecidablePred P]
    (h : m.items.toOption.map (fun items => decide (P items)) = some true) :
    ∃ items, m.items = .ok items ∧ P items := by
  cases hm : m.items with
  | error f => rw [hm] at h; cases h
  | ok items =>
      rw [hm] at h
      exact ⟨items, rfl, of_decide_eq_true (Option.some.inj h)⟩

namespace SourceFacts

open Syntax

/-- **The references of a module stand one behind the other**, if the parts of each of its trees
do.

* They are some of its literals, each of which is collected at most once.
* They are collected in the order in which they are written, and no two of them overlap.
* Each stands where a declaration or a call names the module that it loads.
* If each has at least one byte, as a literal with its quotes has, then each reference begins and
  ends before the next one begins. -/
theorem references_ordered {items : List Tree} (hlaid : AreLaidOut items) (faults : List Fault) :
    ∃ ls : List Literal,
      (ofModule ⟨.ok items, faults⟩).references = ls.map Literal.reference ∧
      ls.Sublist (items.flatMap Tree.literals) ∧
      (ls.Pairwise fun a b => a.span.IsBefore b.span) ∧
      (∀ l ∈ ls, ∃ u ∈ items.flatMap Tree.inside, u.named? = some l ∨ u.spread? = some l) ∧
      ((∀ l ∈ ls, l.span.lo < l.span.hi) →
        (ofModule ⟨.ok items, faults⟩).references.Pairwise fun a b =>
          a.start < b.start ∧ a.start + a.length ≤ b.start) := by
  obtain ⟨ls, hrs, hls, hnamed⟩ := Collected.flatMap (collected_references_of_mem items)
  have horder : ls.Pairwise fun a b => a.span.IsBefore b.span :=
    (pairwise_literals hlaid.1 (holdsLiterals_of_mem items hlaid.2)).sublist hls
  refine ⟨ls, hrs, hls, horder, hnamed, fun hpos => ?_⟩
  change (items.flatMap Tree.references).Pairwise _
  rw [hrs]
  refine List.pairwise_map.mpr (horder.imp_of_mem fun {a b} ha _ hab => ?_)
  have ha := hpos a ha
  have hab : a.span.hi ≤ b.span.lo := hab
  have hlength : a.reference.length = a.span.hi - a.span.lo := Nat.max_eq_left (by omega)
  change a.span.lo < b.span.lo ∧ a.span.lo + a.reference.length ≤ b.span.lo
  omega

/-- A module that loads others in four ways. -/
def fourWays : Module :=
  .ofText { types := true }
    "import './a'; f(require('./b'), import('./c')); import d = require('./d');".toList

theorem exists_items_fourWays :
    ∃ items, fourWays.items = .ok items ∧ AreLaidOut items ∧
      ∀ l ∈ items.flatMap Tree.literals, l.span.lo < l.span.hi :=
  Module.exists_items (by decide +kernel)

/-- Its references stand one behind the other. -/
theorem references_fourWays :
    ∃ items, fourWays.items = .ok items ∧ AreLaidOut items ∧
      (ofModule fourWays).references =
        [⟨"./a".toList, 7, 5⟩, ⟨"./b".toList, 24, 5⟩, ⟨"./c".toList, 39, 5⟩,
          ⟨"./d".toList, 67, 5⟩] ∧
      (ofModule fourWays).references.Pairwise fun a b =>
        a.start < b.start ∧ a.start + a.length ≤ b.start := by
  obtain ⟨items, hitems, hlaid, hpos⟩ := exists_items_fourWays
  obtain ⟨ls, -, hls, -, -, hpairwise⟩ := references_ordered hlaid fourWays.faults
  refine ⟨items, hitems, hlaid, by decide +kernel, ?_⟩
  rw [show fourWays = ⟨.ok items, fourWays.faults⟩ by rw [← hitems]]
  exact hpairwise fun l hl => hpos l (hls.subset hl)

/-- A module that calls `require` with what a string holds, one character after the other. -/
def spreadCall : Module := .ofText { types := true } "require(...'./x');".toList

/-- **A literal that names no module can be collected**: the one behind three dots is, though the
parts of the module stand one behind the other, and nothing in it names a module by a literal. -/
theorem spread_collected :
    ∃ items, spreadCall.items = .ok items ∧ AreLaidOut items ∧
      (ofModule spreadCall).references = [⟨"./x".toList, 11, 5⟩] ∧
      ∀ u ∈ items.flatMap Tree.inside, u.named? = none := by
  obtain ⟨items, hitems, hlaid, hnone⟩ : ∃ items, spreadCall.items = .ok items ∧
      AreLaidOut items ∧ ∀ u ∈ items.flatMap Tree.inside, u.named? = none :=
    Module.exists_items (by decide +kernel)
  have hreferences : (ofModule spreadCall).references = [⟨"./x".toList, 11, 5⟩] := by
    decide +kernel
  exact ⟨items, hitems, hlaid, hreferences, hnone⟩

end SourceFacts

end ImportLint
