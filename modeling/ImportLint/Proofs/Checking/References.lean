import ImportLint.Checking.Source

/-!
# Checking — the references that are found

A source can refer to modules anywhere, but not every part of it is looked at: the heads of
loops, for one, are not, nor are classes, or what a call of `require` is given.

* `Syntax.Tree.mentions`: all references in a tree, each with the way that leads to it.
* `Syntax.Kind.looksAt`: the parts that are looked at; all others are passed over.
* `Syntax.Tree.sees`: a way on which no part is passed over.
* `Syntax.Tree.mem_mentions`: each reference stands where its way leads.
* `Syntax.Tree.references_eq_found`: what is found in a tree are the references that are seen.
* `references_eq_returned`: the references of a module that are found, in the order in which they
  are written, and which of them are missed.
-/

namespace ImportLint

namespace Syntax

/-! ### References and where they stand -/

/-- The parts to take, one after the other, from a tree to a tree in it. -/
abbrev Way := List Nat

/-- A reference in a source. -/
structure Mention where
  /-- Leads to the declaration or to the call that holds the reference. -/
  way : Way
  reference : Reference
  /-- The reference stands behind three dots in a call. -/
  isSpread : Bool
deriving DecidableEq, Repr

/-- The same reference, seen from a tree of which its own tree is part `i`. -/
def Mention.below (i : Nat) (m : Mention) : Mention := { m with way := i :: m.way }

/-- The tree that a way leads to. -/
def Tree.at? : Tree → Way → Option Tree
  | t, [] => some t
  | t, i :: way => t.parts[i]?.bind fun part => part.at? way

/-- The reference that a tree itself makes, not counting those of its parts. -/
def Tree.mention? : Tree → Option Mention
  | .node .importFrom _ (source :: _) | .node .exportAll _ (source :: _)
  | .node .exportNames _ (source :: _) | .node .importEquals _ (source :: _) =>
    (Reference.ofTree? source).map fun r => ⟨[], r, false⟩
  | .node .call _ (callee :: arguments) =>
    if callee.loads then
      (Reference.ofArguments? arguments).map fun r =>
        ⟨[], r, arguments.head?.any fun t => t.kind = .spread⟩
    else none
  | _ => none

mutual

/-- All references in a tree, in the order in which they are written. -/
def Tree.mentions : Tree → List Mention
  | .node k span parts => (Tree.mention? (.node k span parts)).toList ++ mentionsFrom 0 parts

/-- All references in some trees, which are numbered from `i` on. -/
def mentionsFrom : Nat → List Tree → List Mention
  | _, [] => []
  | i, t :: ts => t.mentions.map (Mention.below i) ++ mentionsFrom (i + 1) ts

end

/-! ### The parts that are looked at -/

/-- Whether part `i` of `count` parts is looked at. -/
def Kind.looksAt (k : Kind) (count i : Nat) : Bool :=
  match k with
  -- all parts
  | .expressionStatement | .block | .conditional | .switch | .defaultCase | .attempt
  | .returned | .labelled | .variableDeclaration | .exportDeclaration | .exportDefault
  | .sequence | .paren | .await | .choice | .binary _ | .unary _ | .array | .object | .spread
  | .template | .typed .cast | .typed .nonNull | .call => true
  -- neither the test, target, key nor the parameters
  | .case | .declarator | .functionDeclaration .. | .function .. | .arrow | .assign _ | .entry =>
    1 ≤ i
  -- the body alone, which comes last
  | .handler | .whileLoop | .forLoop | .forIn | .forOf => count - 1 ≤ i
  -- the body alone, or the object, which come first
  | .doWhile | .member => i < 1
  | _ => false

/-- Whether part `i` of a tree is looked at.  Nothing in a call that loads a module is. -/
def Tree.opens : Tree → Nat → Bool
  | .node .call _ (callee :: _), _ => !callee.loads
  | .node k _ parts, i => k.looksAt parts.length i

/-- No part is passed over on a way into a tree. -/
def Tree.sees : Tree → Way → Bool
  | _, [] => true
  | t, i :: way => t.opens i && t.parts[i]?.any fun part => part.sees way

/-! ### What is kept of the parts -/

/-- The items whose numbers are taken; the first one is number `i`. -/
def keepFrom {α : Type} (takes : Nat → Bool) : Nat → List α → List α
  | _, [] => []
  | i, x :: xs => (if takes i then [x] else []) ++ keepFrom takes (i + 1) xs

section

variable {α : Type} {takes : Nat → Bool}

theorem keepFrom_append (i : Nat) (xs ys : List α) :
    keepFrom takes i (xs ++ ys) = keepFrom takes i xs ++ keepFrom takes (i + xs.length) ys := by
  induction xs generalizing i with
  | nil => rfl
  | cons x xs ih =>
      rw [List.cons_append, keepFrom, keepFrom, ih, List.append_assoc, List.length_cons,
        Nat.add_comm xs.length, Nat.add_assoc]

theorem keepFrom_of_all {i : Nat} {xs : List α}
    (h : ∀ j, i ≤ j → j < i + xs.length → takes j = true) : keepFrom takes i xs = xs := by
  induction xs generalizing i with
  | nil => rfl
  | cons x xs ih =>
      rw [List.length_cons] at h
      rw [keepFrom, if_pos (h i (Nat.le_refl i) (by omega)),
        ih fun j hi hj => h j (by omega) (by omega)]
      rfl

theorem keepFrom_of_none {i : Nat} {xs : List α}
    (h : ∀ j, i ≤ j → j < i + xs.length → takes j = false) : keepFrom takes i xs = [] := by
  induction xs generalizing i with
  | nil => rfl
  | cons x xs ih =>
      rw [List.length_cons] at h
      rw [keepFrom, h i (Nat.le_refl i) (by omega),
        ih fun j hi hj => h j (by omega) (by omega)]
      rfl

theorem keepFrom_ge (d : Nat) (xs : List α) : keepFrom (d ≤ ·) 0 xs = xs.drop d := by
  conv => lhs; rw [← List.take_append_drop d xs]
  have hlen := List.length_take (i := d) (l := xs)
  have hdrop := List.length_drop (i := d) (l := xs)
  rw [keepFrom_append, keepFrom_of_none, List.nil_append]
  · by_cases hd : d ≤ xs.length
    · exact keepFrom_of_all fun j hi hj => by simp; omega
    · rw [List.drop_eq_nil_of_le (by omega)]; rfl
  · intro j hi hj
    simp; omega

theorem keepFrom_lt (d : Nat) (xs : List α) : keepFrom (· < d) 0 xs = xs.take d := by
  conv => lhs; rw [← List.take_append_drop d xs]
  have hlen := List.length_take (i := d) (l := xs)
  have hdrop := List.length_drop (i := d) (l := xs)
  rw [keepFrom_append, keepFrom_of_all, keepFrom_of_none, List.append_nil]
  · intro j hi hj
    simp; omega
  · intro j hi hj
    simp; omega

end

/-- What belongs to the parts that are looked at. -/
theorem Kind.select_eq {α : Type} (k : Kind) (xs : List α) :
    k.select xs = keepFrom (k.looksAt xs.length) 0 xs := by
  have all : keepFrom (fun _ => true) 0 xs = xs := keepFrom_of_all fun _ _ _ => rfl
  have none : keepFrom (fun _ => false) 0 xs = [] := keepFrom_of_none fun _ _ _ => rfl
  have later := (keepFrom_ge 1 xs).symm
  have last := (keepFrom_ge (xs.length - 1) xs).symm
  have front := (keepFrom_lt 1 xs).symm
  cases k with
  | typed form => cases form <;> first | exact all.symm | exact none.symm
  | _ => first | exact all.symm | exact none.symm | exact later | exact last | exact front

/-! ### Where references stand -/

/-- No way leads to the reference that a tree itself makes. -/
theorem Tree.way_of_mention? {t : Tree} {m : Mention} (h : t.mention? = some m) : m.way = [] := by
  have source : ∀ o : Option Reference, o.map (fun r => (⟨[], r, false⟩ : Mention)) = some m →
      m.way = [] := fun o h => by
    obtain ⟨r, -, rfl⟩ := Option.map_eq_some_iff.mp h
    rfl
  unfold mention? at h
  split at h
  · exact source _ h
  · exact source _ h
  · exact source _ h
  · exact source _ h
  · split at h
    · obtain ⟨r, -, rfl⟩ := Option.map_eq_some_iff.mp h
      rfl
    · cases h
  · cases h

theorem mem_mentionsFrom {m : Mention} {ts : List Tree} {i : Nat} :
    m ∈ mentionsFrom i ts ↔
      ∃ (j : Nat) (t : Tree), ts[j]? = some t ∧ ∃ n ∈ t.mentions, m = n.below (i + j) := by
  induction ts generalizing i with
  | nil => simp [mentionsFrom]
  | cons t ts ih =>
      rw [mentionsFrom, List.mem_append, List.mem_map, ih]
      constructor
      · rintro (⟨n, hn, rfl⟩ | ⟨j, u, hu, n, hn, rfl⟩)
        · exact ⟨0, t, rfl, n, hn, rfl⟩
        · exact ⟨j + 1, u, hu, n, hn, by rw [Nat.add_assoc, Nat.add_comm 1 j]⟩
      · rintro ⟨_ | j, u, hu, n, hn, rfl⟩
        · cases hu
          exact Or.inl ⟨n, hn, rfl⟩
        · exact Or.inr ⟨j, u, hu, n, hn, by rw [Nat.add_assoc, Nat.add_comm 1 j]⟩

/-- **A reference stands where its way leads**, and all that stand somewhere are listed. -/
theorem Tree.mem_mentions {t : Tree} {way : Way} {r : Reference} {isSpread : Bool} :
    ⟨way, r, isSpread⟩ ∈ t.mentions ↔
      ∃ u, t.at? way = some u ∧ u.mention? = some ⟨[], r, isSpread⟩ := by
  induction way generalizing t with
  | nil =>
      obtain ⟨k, span, parts⟩ := t
      rw [mentions, List.mem_append, Option.mem_toList, mem_mentionsFrom]
      constructor
      · rintro (hown | ⟨j, u, -, n, -, hn⟩)
        · exact ⟨_, rfl, hown⟩
        · cases hn
      · rintro ⟨u, hu, hown⟩
        cases hu
        exact Or.inl hown
  | cons i way ih =>
      obtain ⟨k, span, parts⟩ := t
      rw [mentions, List.mem_append, Option.mem_toList, mem_mentionsFrom]
      constructor
      · rintro (hown | ⟨j, part, hpart, n, hn, he⟩)
        · cases way_of_mention? hown
        · rw [Nat.zero_add] at he
          cases he
          obtain ⟨u, hu, hown⟩ := ih.mp hn
          exact ⟨u, Option.bind_eq_some_iff.mpr ⟨part, hpart, hu⟩, hown⟩
      · rintro ⟨u, hu, hown⟩
        obtain ⟨part, hpart, hu⟩ := Option.bind_eq_some_iff.mp hu
        refine Or.inr ⟨i, part, hpart, ⟨way, r, isSpread⟩, ih.mpr ⟨u, hu, hown⟩, ?_⟩
        rw [Nat.zero_add]
        rfl

/-- **A way is seen** if each tree on it looks at the part that the way goes on with. -/
theorem Tree.sees_iff {t u : Tree} {way : Way} (h : t.at? way = some u) :
    t.sees way = true ↔ ∀ before i after v, way = before ++ i :: after →
      t.at? before = some v → v.opens i = true := by
  induction way generalizing t with
  | nil =>
      refine ⟨fun _ before i after v hway _ => ?_, fun _ => by simp [sees]⟩
      exact absurd hway.symm (List.append_ne_nil_of_right_ne_nil _ (List.cons_ne_nil _ _))
  | cons i way ih =>
      obtain ⟨part, hpart, hbelow⟩ := Option.bind_eq_some_iff.mp h
      rw [sees, hpart, Option.any_some, Bool.and_eq_true, ih hbelow]
      constructor
      · rintro ⟨hopens, hbelow⟩ before j after v hway hv
        cases before with
        | nil =>
            cases hway
            cases hv
            exact hopens
        | cons b before =>
            obtain ⟨rfl, hrest⟩ := List.cons.inj hway
            rw [at?, hpart] at hv
            exact hbelow before j after v hrest hv
      · intro hall
        refine ⟨hall [] i way t rfl rfl, fun before j after v hway hv => ?_⟩
        refine hall (i :: before) j after v (congrArg (i :: ·) hway) ?_
        rw [at?, hpart]
        exact hv

/-! ### What is found is what is seen -/

theorem partReferences_eq_map (ts : List Tree) : partReferences ts = ts.map Tree.references := by
  induction ts with
  | nil => rfl
  | cons t ts ih => rw [partReferences, ih]; rfl

/-- Of some references those that are seen. -/
def Mention.found (sees : Way → Bool) (ms : List Mention) : List Reference :=
  (ms.filter fun m => sees m.way).map Mention.reference

theorem Mention.found_append (sees : Way → Bool) (a b : List Mention) :
    found sees (a ++ b) = found sees a ++ found sees b := by
  rw [found, List.filter_append, List.map_append]; rfl

/-- What is seen of a part. -/
theorem Mention.found_below (sees inside : Way → Bool) (i : Nat) (opens : Bool)
    (h : ∀ way, sees (i :: way) = (opens && inside way)) (ms : List Mention) :
    found sees (ms.map (below i)) = if opens then found inside ms else [] := by
  cases opens with
  | true => simp [found, List.filter_map, Function.comp_def, below, h]
  | false => simp [found, List.filter_map, Function.comp_def, below, h]

/-- The references of parts, given that those of each part are known. -/
theorem found_mentionsFrom {sees : Way → Bool} {opens : Nat → Bool} {ts : List Tree} {i : Nat}
    (ht : ∀ t ∈ ts, t.references = Mention.found t.sees t.mentions)
    (hs : ∀ j t way, ts[j]? = some t → sees ((i + j) :: way) = (opens (i + j) && t.sees way)) :
    Mention.found sees (mentionsFrom i ts) =
      (keepFrom opens i (ts.map Tree.references)).flatten := by
  induction ts generalizing i with
  | nil => rfl
  | cons t ts ih =>
      rw [mentionsFrom, Mention.found_append, List.map_cons, keepFrom, List.flatten_append,
        Mention.found_below sees t.sees i (opens i) (fun way => hs 0 t way rfl),
        ← ht t List.mem_cons_self,
        ih (fun t h => ht t (List.mem_cons_of_mem _ h)) fun j u way hu => by
          have := hs (j + 1) u way (by simpa using hu)
          rwa [show i + (j + 1) = i + 1 + j from by omega] at this]
      cases opens i <;> simp

/-- The reference that a tree itself makes, and what is found in the parts that are looked at,
given what is found in each part. -/
def Tree.seenIn (t : Tree) (found : List (List Reference)) : List Reference :=
  (t.mention?.map Mention.reference).toList ++ (keepFrom t.opens 0 found).flatten

theorem Tree.seenIn_of_blind {t : Tree} (h : t.opens = fun _ => false)
    (found : List (List Reference)) :
    t.seenIn found = (t.mention?.map Mention.reference).toList := by
  rw [seenIn, h, keepFrom_of_none fun _ _ _ => rfl]
  exact List.append_nil _

theorem Tree.seenIn_of_kind {k : Kind} {span : Span} {parts : List Tree}
    (hm : Tree.mention? (.node k span parts) = none)
    (ho : Tree.opens (.node k span parts) = k.looksAt parts.length)
    {found : List (List Reference)} (hlen : found.length = parts.length) :
    Tree.seenIn (.node k span parts) found = (k.select found).flatten := by
  rw [seenIn, hm, ho, k.select_eq, hlen]
  rfl

/-- A tree gives its own reference, and what is found in the parts that are looked at. -/
theorem Tree.gather_eq (k : Kind) (span : Span) (parts : List Tree)
    {found : List (List Reference)} (hlen : found.length = parts.length) :
    Tree.gather k parts found = Tree.seenIn (.node k span parts) found := by
  cases k with
  | importFrom | exportAll | exportNames | importEquals =>
      cases parts with
      | nil => exact (seenIn_of_kind rfl rfl hlen).symm
      | cons t rest =>
          rw [seenIn_of_blind rfl]
          cases e : Reference.ofTree? t <;> simp [gather, mention?, e]
  | call =>
      cases parts with
      | nil => exact (seenIn_of_kind rfl rfl hlen).symm
      | cons callee arguments =>
          cases e : callee.loads with
          | true =>
              rw [seenIn_of_blind (by funext i; simp [opens, e])]
              cases ha : Reference.ofArguments? arguments <;> simp [gather, mention?, e, ha]
          | false =>
              rw [seenIn_of_kind (by simp [mention?, e]) (by funext i; simp [opens, e]; rfl) hlen]
              simp [gather, e, Kind.select]
  | _ => exact (seenIn_of_kind rfl rfl hlen).symm

theorem Tree.found_mention? (t : Tree) :
    Mention.found t.sees t.mention?.toList = (t.mention?.map Mention.reference).toList := by
  cases e : t.mention? with
  | none => rfl
  | some m =>
      have hw := way_of_mention? e
      simp [Mention.found, hw, sees]

mutual

/-- **What is found in a tree** are the references in it that are seen. -/
theorem Tree.references_eq_found : ∀ t : Tree, t.references = Mention.found t.sees t.mentions
  | .node k span parts => by
      have ht := references_eq_found_of_mem parts
      rw [Tree.references, Tree.mentions, Mention.found_append, Tree.found_mention?,
        partReferences_eq_map, Tree.gather_eq k span parts (List.length_map ..), Tree.seenIn]
      congr 1
      refine (found_mentionsFrom ht fun j t way h => ?_).symm
      rw [Nat.zero_add, Tree.sees]
      change (_ && (parts[j]?).any _) = _
      rw [h]
      rfl

theorem references_eq_found_of_mem :
    ∀ ts : List Tree, ∀ t ∈ ts, t.references = Mention.found t.sees t.mentions
  | [], _, h => by cases h
  | t :: ts, u, h => by
      rcases List.mem_cons.mp h with e | h
      · exact e ▸ Tree.references_eq_found t
      · exact references_eq_found_of_mem ts u h

end

end Syntax

/-! ### Modules -/

namespace SourceFacts

open Syntax

/-- All references in the items of a module. -/
def mentions (items : List Tree) : List Mention := mentionsFrom 0 items

/-- No part is passed over on a way into the items of a module. -/
def sees (items : List Tree) : Way → Bool
  | [] => true
  | i :: way => items[i]?.any fun item => item.sees way

/-- The references of a module that are seen. -/
def returned (items : List Tree) : List Mention :=
  (mentions items).filter fun m => sees items m.way

/-- The tree that a way into the items of a module leads to. -/
def treeAt? (items : List Tree) : Way → Option Tree
  | [] => none
  | i :: way => items[i]?.bind fun item => item.at? way

/-- A way goes on with a part that the tree around it does not look at. -/
def PassesOver (items : List Tree) (way : Way) : Prop :=
  ∃ before i after t, way = before ++ i :: after ∧ treeAt? items before = some t ∧
    t.opens i = false

theorem mem_mentions {items : List Tree} {m : Mention} :
    m ∈ mentions items ↔
      ∃ t, treeAt? items m.way = some t ∧ t.mention? = some { m with way := [] } := by
  rw [mentions, mem_mentionsFrom]
  constructor
  · rintro ⟨j, item, hitem, n, hn, rfl⟩
    obtain ⟨t, ht, hown⟩ := Tree.mem_mentions.mp hn
    refine ⟨t, ?_, hown⟩
    rw [Nat.zero_add]
    exact Option.bind_eq_some_iff.mpr ⟨item, hitem, ht⟩
  · obtain ⟨way, r, isSpread⟩ := m
    rintro ⟨t, ht, hown⟩
    cases way with
    | nil => cases ht
    | cons i way =>
        obtain ⟨item, hitem, ht⟩ := Option.bind_eq_some_iff.mp ht
        refine ⟨i, item, hitem, _, Tree.mem_mentions.mpr ⟨t, ht, hown⟩, ?_⟩
        rw [Nat.zero_add]
        rfl

/-- A way into a module is seen if it does not go through a part that is passed over. -/
theorem sees_iff {items : List Tree} {way : Way} {t : Tree} (h : treeAt? items way = some t) :
    sees items way = true ↔ ¬ PassesOver items way := by
  cases way with
  | nil => cases h
  | cons i way =>
      obtain ⟨item, hitem, ht⟩ := Option.bind_eq_some_iff.mp h
      rw [sees, hitem, Option.any_some, Tree.sees_iff ht]
      constructor
      · rintro hall ⟨before, j, after, v, hway, hv, hclosed⟩
        cases before with
        | nil => cases hv
        | cons b before =>
            obtain ⟨rfl, hrest⟩ := List.cons.inj hway
            rw [treeAt?, hitem] at hv
            exact Bool.false_ne_true (hclosed.symm.trans (hall before j after v hrest hv))
      · intro hnone before j after v hway hv
        cases hopens : v.opens j with
        | true => rfl
        | false =>
            refine absurd ⟨i :: before, j, after, v, congrArg (i :: ·) hway, ?_, hopens⟩ hnone
            rw [treeAt?, hitem]
            exact hv

/-- **The references that are found** are those that are seen, in the order in which they are
written.

* A reference is one that some tree in the module makes, and its way leads to that tree.
* No plain literal is missed if and only if none stands behind a part that is passed over. -/
theorem references_eq_returned (items : List Tree) (faults : List Fault) :
    (ofModule ⟨.ok items, faults⟩).references = (returned items).map Mention.reference ∧
      (∀ m, m ∈ mentions items ↔
        ∃ t, treeAt? items m.way = some t ∧ t.mention? = some { m with way := [] }) ∧
      ((∀ m ∈ mentions items, m.isSpread = false → m ∈ returned items) ↔
        ∀ m ∈ mentions items, m.isSpread = false → ¬ PassesOver items m.way) := by
  refine ⟨?_, fun m => mem_mentions, ?_⟩
  · have h : Mention.found (sees items) (mentionsFrom 0 items) =
        (keepFrom (fun _ => true) 0 (items.map Tree.references)).flatten :=
      found_mentionsFrom (references_eq_found_of_mem items) fun j t way ht => by
        rw [Nat.zero_add, sees, ht]
        rfl
    rw [keepFrom_of_all fun _ _ _ => rfl] at h
    exact h.symm
  · refine forall₂_congr fun m hm => imp_congr_right fun _ => ?_
    obtain ⟨t, ht, -⟩ := mem_mentions.mp hm
    rw [returned, List.mem_filter, and_iff_right hm]
    exact sees_iff ht

/-- A module whose only reference stands in the head of a loop. -/
def loopHead : Module := .ofText { types := true } "while (require('./x')) \x7b\x7d".toList

/-- **A reference can be missed**: the one in the head of a loop is. -/
theorem loopHead_missed :
    ∃ items, loopHead.items = .ok items ∧ ∃ m ∈ mentions items, m.isSpread = false ∧
      m.reference ∉ (ofModule loopHead).references := by
  have hnone : (ofModule loopHead).references = [] := by decide +kernel
  have hplain : (loopHead.items.toOption.map fun items =>
      (mentions items).any fun m => !m.isSpread) = some true := by decide +kernel
  cases e : loopHead.items with
  | error f => rw [e] at hplain; cases hplain
  | ok items =>
      rw [e] at hplain
      obtain ⟨m, hm, hs⟩ := List.any_eq_true.mp (Option.some.inj hplain)
      exact ⟨items, rfl, m, hm, by simpa using hs, by rw [hnone]; exact List.not_mem_nil⟩

end SourceFacts

end ImportLint
