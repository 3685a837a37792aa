import Mathlib.Data.List.Infix
import ImportLint.Path.Ancestors
import ImportLint.Proofs.Path.Parents

/-!
# Paths — absolute paths as lists of names

A normal form of an absolute path is told by the names between its slashes.  On lists of names
joining, parents and walks upwards are what they look like: a name more at the end, a name less,
and all beginnings of the list.

* `Path.ofNames`, `Path.names`: the path with the given names, and the names of a path.
* `ofNames_names_normalize`: the normal form of an absolute path is the path with its names.
* `join_joinSegments`, `parent_ofNames_concat`, `ancestors_ofNames`: names more, one name less, all
  of them.
-/

namespace ImportLint.Path

/-- The absolute path with the given names. -/
def ofNames (ns : List Text) : Path := ⟨'/' :: joinSegments ns⟩

/-- A text that can be the name of a file: not empty, no dots that lead elsewhere, no slash. -/
def IsName (n : Text) : Prop := IsNamed (.name n)

instance (n : Text) : Decidable (IsName n) := inferInstanceAs (Decidable (IsNamed _))

/-- All of some texts can be names of files. -/
def AreNames (ns : List Text) : Prop := ∀ n ∈ ns, IsName n

instance (ns : List Text) : Decidable (AreNames ns) := inferInstanceAs (Decidable (∀ n ∈ ns, _))

theorem areNames_nil : AreNames [] := fun _ h => nomatch h

theorem areNames_append {ns ms : List Text} : AreNames (ns ++ ms) ↔ AreNames ns ∧ AreNames ms :=
  List.forall_mem_append

theorem AreNames.of_beginning {ns ms : List Text} (h : AreNames ms) (hp : ns <+: ms) :
    AreNames ns :=
  fun n hn => h n (hp.subset hn)

theorem AreNames.concat {ns : List Text} {n : Text} (h : AreNames ns) (hn : IsName n) :
    AreNames (ns ++ [n]) :=
  areNames_append.mpr ⟨h, fun m hm => by rwa [List.mem_singleton.mp hm]⟩

theorem IsName.isIdle {n : Text} (h : IsName n) : isIdle n = false := by
  rw [← Bool.not_eq_true, ← ofSegment_eq_none_iff, show Component.ofSegment n = _ from h.1]
  exact Option.some_ne_none _

/-! ### What such a path names -/

/-- Names are written as they are. -/
theorem map_chars_name (ns : List Text) : (ns.map Component.name).map Component.chars = ns := by
  rw [List.map_map]
  exact List.map_id ns

theorem ofNames_eq_ofComponents (ns : List Text) :
    ofNames ns = ofComponents (.root :: ns.map .name) := by
  rw [ofComponents, map_chars_name]
  rfl

theorem spellable_names {ns : List Text} (h : AreNames ns) : Spellable (.root :: ns.map .name) :=
  ⟨[.root], ns.map .name, rfl, Or.inr rfl, fun c hc => by
    obtain ⟨n, hn, rfl⟩ := List.mem_map.mp hc
    exact h n hn⟩

/-- **The components** are the root and the names. -/
theorem components_ofNames {ns : List Text} (h : AreNames ns) :
    (ofNames ns).components = .root :: ns.map .name := by
  rw [ofNames_eq_ofComponents, components_ofComponents (spellable_names h)]

/-- The names among the components of a path. -/
def names (p : Path) : List Text :=
  p.components.filterMap fun
    | .name n => some n
    | _ => none

theorem names_ofNames {ns : List Text} (h : AreNames ns) : (ofNames ns).names = ns := by
  rw [names, components_ofNames h, List.filterMap_cons_none rfl, List.filterMap_map]
  exact List.filterMap_some

/-- The names of a path can be names. -/
theorem areNames_names (p : Path) : AreNames p.names := by
  intro n hn
  obtain ⟨c, hc, hcn⟩ := List.mem_filterMap.mp hn
  rw [components_eq] at hc
  rcases List.mem_append.mp hc with hfront | hnamed
  · -- at the front stand a root, a dot or nothing
    unfold front at hfront
    split at hfront
    · cases List.mem_singleton.mp hfront
      cases hcn
    · split at hfront
      · cases List.mem_singleton.mp hfront
        cases hcn
      · cases hfront
  · cases c with
    | name m =>
        cases hcn
        exact isNamed_of_mem_named hnamed
    | root => cases hcn
    | current => cases hcn
    | parent => cases hcn

/-- Different names make different paths. -/
theorem eq_of_components_ofNames {ns ms : List Text} (hn : AreNames ns) (hm : AreNames ms)
    (h : (ofNames ns).components = (ofNames ms).components) : ns = ms := by
  rw [← names_ofNames hn, ← names_ofNames hm, names, names, h]

/-! ### Normal forms -/

/-- A stack of names upon the root, the last name first. -/
def stackOf (ns : List Text) : List Component := ns.map .name ++ [.root]

/-- One more component keeps a stack one of names. -/
theorem foldComponent_stackOf {ns : List Text} (hns : AreNames ns) {c : Component}
    (hc : IsNamed c) : ∃ ms, foldComponent (stackOf ns) c = stackOf ms ∧ AreNames ms := by
  cases c with
  | root => exact absurd rfl hc.ne_root
  | current => exact absurd rfl hc.ne_current
  | name n =>
      refine ⟨n :: ns, foldComponent_name _ n, fun m hm => ?_⟩
      rcases List.mem_cons.mp hm with rfl | hm
      · exact hc
      · exact hns m hm
  | parent =>
      cases ns with
      | nil => exact ⟨[], rfl, hns⟩
      | cons n ns => exact ⟨ns, rfl, fun m hm => hns m (List.mem_cons_of_mem n hm)⟩

theorem foldl_stackOf (cs : List Component) (hcs : ∀ c ∈ cs, IsNamed c) {ns : List Text}
    (hns : AreNames ns) : ∃ ms, cs.foldl foldComponent (stackOf ns) = stackOf ms ∧ AreNames ms := by
  induction cs generalizing ns with
  | nil => exact ⟨ns, rfl, hns⟩
  | cons c cs ih =>
      obtain ⟨ms, hms, hnames⟩ := foldComponent_stackOf hns (hcs c List.mem_cons_self)
      rw [List.foldl_cons, hms]
      exact ih (fun d hd => hcs d (List.mem_cons_of_mem c hd)) hnames

/-- **The normal form of an absolute path** is one of names. -/
theorem exists_normalize_eq_ofNames {p : Path} (hp : p.isAbsolute = true) :
    ∃ ns, AreNames ns ∧ p.normalize = ofNames ns := by
  have hfront := front_of_isAbsolute hp
  obtain ⟨ms, hms, hnames⟩ :=
    foldl_stackOf (named p.chars) (fun c hc => isNamed_of_mem_named hc) areNames_nil
  refine ⟨ms.reverse, fun n hn => hnames n (List.mem_reverse.mp hn), ?_⟩
  have hfold : foldComponents p.components = .root :: ms.reverse.map .name := by
    rw [foldComponents, components_eq, hfront, List.foldl_append]
    change ((named p.chars).foldl foldComponent (stackOf [])).reverse = _
    rw [hms, stackOf, List.reverse_append, List.map_reverse]
    rfl
  rw [normalize, hfold, ofNames_eq_ofComponents]

/-- The names of a normal form tell it. -/
theorem ofNames_names_normalize {p : Path} (hp : p.isAbsolute = true) :
    AreNames p.normalize.names ∧ ofNames p.normalize.names = p.normalize := by
  obtain ⟨ns, hns, hnorm⟩ := exists_normalize_eq_ofNames hp
  rw [hnorm, names_ofNames hns]
  exact ⟨hns, rfl⟩

/-- Names are put upon a stack as they are. -/
theorem foldl_map_name (ns : List Text) (done : List Component) :
    (ns.map Component.name).foldl foldComponent done = (ns.map .name).reverse ++ done := by
  induction ns generalizing done with
  | nil => rfl
  | cons n ns ih =>
      rw [List.map_cons, List.foldl_cons, foldComponent_name, ih, List.reverse_cons,
        List.append_assoc]
      rfl

/-- Names are their own normal form. -/
theorem normalize_ofNames {ns : List Text} (h : AreNames ns) :
    (ofNames ns).normalize = ofNames ns := by
  rw [normalize, components_ofNames h, foldComponents, List.foldl_cons]
  change ofComponents ((ns.map Component.name).foldl foldComponent [.root]).reverse = _
  rw [foldl_map_name, List.reverse_append, List.reverse_reverse, ofNames_eq_ofComponents]
  rfl

theorem isAbsolute_join {p : Path} (hp : p.isAbsolute = true) (q : Path) :
    (p.join q).isAbsolute = true := by
  obtain ⟨cs, hcs⟩ := isAbsolute_iff.mp hp
  unfold join
  split
  · assumption
  · rw [hcs, List.getLast?_cons]
    split
    · next e => cases e
    · rfl
    · rfl

/-! ### One name more, one name less -/

theorem joinSegments_append {ss ts : List Text} (hs : ss ≠ []) (ht : ts ≠ []) :
    joinSegments (ss ++ ts) = joinSegments ss ++ '/' :: joinSegments ts := by
  induction ss with
  | nil => exact absurd rfl hs
  | cons s ss ih =>
      cases ss with
      | nil =>
          obtain ⟨t, ts, rfl⟩ := List.exists_cons_of_ne_nil ht
          rfl
      | cons u ss =>
          have hrest := ih (List.cons_ne_nil u ss)
          rw [List.cons_append, List.cons_append, joinSegments, ← List.cons_append, hrest,
            joinSegments, List.append_assoc]
          rfl

theorem joinSegments_concat {ss : List Text} (h : ss ≠ []) (s : Text) :
    joinSegments (ss ++ [s]) = joinSegments ss ++ '/' :: s :=
  joinSegments_append h (List.cons_ne_nil s [])

/-- The last character of a path of names is one of the last name. -/
theorem getLast?_joinSegments_concat (ss : List Text) {s : Text} (h : s ≠ []) :
    (joinSegments (ss ++ [s])).getLast? = s.getLast? := by
  have hc := List.getLast?_eq_some_getLast h
  by_cases hss : ss = []
  · rw [hss]
    rfl
  · rw [joinSegments_concat hss, List.getLast?_append, List.getLast?_cons, hc]
    rfl

/-- Names do not begin with a slash when they are joined. -/
theorem isAbsolute_joinSegments {ns : List Text} (h : AreNames ns) :
    Path.isAbsolute ⟨joinSegments ns⟩ = false := by
  refine Bool.eq_false_iff.mpr fun ha => ?_
  obtain ⟨cs, hcs⟩ := isAbsolute_iff.mp ha
  cases ns with
  | nil => cases hcs
  | cons n ns =>
      have hsegments := segments_joinSegments (List.cons_ne_nil n ns) fun s hs => (h s hs).2
      rw [show joinSegments (n :: ns) = '/' :: cs from hcs, segments_slash] at hsegments
      have hn : IsName n := h n List.mem_cons_self
      rw [← (List.cons.inj hsegments).1] at hn
      cases hn.1

theorem joinSegments_ne_nil {ns : List Text} (h : AreNames ns) (hne : ns ≠ []) :
    joinSegments ns ≠ [] := by
  intro hnil
  have hsegments := segments_joinSegments hne fun s hs => (h s hs).2
  rw [hnil, segments_nil] at hsegments
  cases (h [] (hsegments ▸ List.mem_cons_self)).1

/-- **Joining names** adds them at the end. -/
theorem join_joinSegments {ns ms : List Text} (hn : AreNames ns) (hm : AreNames ms)
    (hne : ms ≠ []) : (ofNames ns).join ⟨joinSegments ms⟩ = ofNames (ns ++ ms) := by
  rw [join, isAbsolute_joinSegments hm, if_neg Bool.false_ne_true]
  rcases List.eq_nil_or_concat ns with rfl | ⟨us, u, rfl⟩
  · rfl
  · rw [List.concat_eq_append] at hn ⊢
    have hu : IsName u := (areNames_append.mp hn).2 u List.mem_cons_self
    have hnil : u ≠ [] := by rintro rfl; cases hu.1
    have hslash : u.getLast hnil ≠ '/' := fun e => hu.2 (e ▸ List.getLast_mem hnil)
    have hlast : (ofNames (us ++ [u])).chars.getLast? = some (u.getLast hnil) := by
      rw [ofNames, List.getLast?_cons, getLast?_joinSegments_concat us hnil,
        List.getLast?_eq_some_getLast hnil]
      rfl
    rw [hlast]
    split
    · next e => cases e
    · next e => exact absurd (Option.some.inj e) hslash
    · change (⟨'/' :: (joinSegments (us ++ [u]) ++ '/' :: joinSegments ms)⟩ : Path) = _
      rw [← joinSegments_append (by simp) hne]
      rfl

/-- Joining one name adds it at the end. -/
theorem join_ofNames {ns : List Text} (h : AreNames ns) {n : Text} (hn : IsName n) :
    (ofNames ns).join ⟨n⟩ = ofNames (ns ++ [n]) :=
  join_joinSegments h (List.forall_mem_singleton.mpr hn) (List.cons_ne_nil n [])

/-- The path that a list of names leads to from a directory. -/
def below (dir : Path) (ns : List Text) : Path := ns.foldl (fun dir n => dir.join ⟨n⟩) dir

theorem below_ofNames {ns ms : List Text} (hn : AreNames ns) (hm : AreNames ms) :
    (ofNames ns).below ms = ofNames (ns ++ ms) := by
  induction ms generalizing ns with
  | nil => rw [List.append_nil]; rfl
  | cons m ms ih =>
      have hm' : IsName m := hm m List.mem_cons_self
      rw [below, List.foldl_cons, join_ofNames hn hm']
      exact (ih (hn.concat hm') fun n h => hm n (List.mem_cons_of_mem m h)).trans
        (by rw [List.append_assoc]; rfl)

theorem dropIdleEnd_names {ns : List Text} (h : AreNames ns) : dropIdleEnd ns = ns := by
  rcases List.eq_nil_or_concat ns with rfl | ⟨ms, m, rfl⟩
  · rfl
  · rw [List.concat_eq_append] at h ⊢
    have hm : IsName m := (areNames_append.mp h).2 m List.mem_cons_self
    rw [dropIdleEnd_concat, hm.isIdle]
    rfl

theorem parent_ofNames_nil : (ofNames []).parent = none := rfl

/-- **The parent** is without the last name. -/
theorem parent_ofNames_concat {ns : List Text} (h : AreNames ns) {n : Text} (hn : IsName n) :
    (ofNames (ns ++ [n])).parent = some (ofNames ns) := by
  have hall := h.concat hn
  have hsegments : segments (joinSegments (ns ++ [n])) = ns ++ [n] :=
    segments_joinSegments (by simp) fun s hs => (hall s hs).2
  have hlead : (ofNames (ns ++ [n])).lead = .root (ns ++ [n]) := by
    rw [ofNames, lead]
    simp only
    rw [hsegments]
  have hbody := dropIdleEnd_names hall
  rw [parent, hlead]
  simp only [hbody]
  split
  · next e => exact absurd e (by simp)
  · rw [List.dropLast_concat, dropIdleEnd_names h]
    rfl

/-- **A walk upwards** takes every beginning of the names, the longest first. -/
theorem ancestors_ofNames {ns : List Text} (h : AreNames ns) :
    (ofNames ns).ancestors = ns.inits.reverse.map ofNames := by
  induction ns using List.reverseRecOn with
  | nil => rw [ancestors, parent_ofNames_nil]; rfl
  | append_singleton ns n ih =>
      obtain ⟨hns, hn⟩ := areNames_append.mp h
      have hinits : (ns ++ [n]).inits = ns.inits ++ [ns ++ [n]] := by simp [List.inits_append]
      have hparent := parent_ofNames_concat hns (hn n List.mem_cons_self)
      rw [ancestors, hinits, List.reverse_append, List.reverse_singleton, List.singleton_append,
        List.map_cons, ← ih hns]
      congr 1
      split
      · next up hup =>
        rw [hparent] at hup
        cases hup
        rfl
      · next hup => rw [hparent] at hup; cases hup

end ImportLint.Path
