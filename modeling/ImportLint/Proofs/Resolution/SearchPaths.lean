import Mathlib.Data.List.Nodup
import ImportLint.Proofs.Path.Ancestors
import ImportLint.SearchPaths

/-!
# Search paths — the list of a directory

The list is put together from two halves: the dependency folders from the directory up to the
project root, and those above the project root.  Where the project root is on the way up the
halves meet, and the list is that of one walk to the top; where it is not, the first half is the
whole walk and the second one adds the folders above the project root.

* `map_components_distinctPaths`: of paths that name the same the first one stays.
* `foldersFrom`: the dependency folders of a directory and of all above it.
* `build_of_isPrefix`, `build_of_not_isPrefix`: the list of a directory, told by whole walks.
* `MadeFrom`: lists that are kept are lists that would be made.
* `forDirectory_eq`: the list of a directory after any earlier requests.
-/

namespace ImportLint

open ImportLint.Path (AreNames IsName ofNames)

/-! ### First occurrences -/

theorem nodup_eraseDups {α : Type} [BEq α] [LawfulBEq α] (as : List α) : as.eraseDups.Nodup := by
  match as with
  | [] => exact List.nodup_nil
  | a :: as =>
      rw [List.eraseDups_cons, List.nodup_cons, List.mem_eraseDups, List.mem_filter]
      exact ⟨fun h => by simp at h, nodup_eraseDups _⟩
termination_by as.length
decreasing_by exact Nat.lt_succ_of_le (List.length_filter_le _ _)

theorem eraseDups_of_nodup {α : Type} [BEq α] [LawfulBEq α] {as : List α} (h : as.Nodup) :
    as.eraseDups = as := by
  induction as with
  | nil => rfl
  | cons a as ih =>
      obtain ⟨ha, has⟩ := List.nodup_cons.mp h
      rw [List.eraseDups_cons, List.filter_eq_self.mpr fun b hb => ?_, ih has]
      simpa using fun e : b = a => ha (e ▸ hb)

/-- **Of paths that name the same** the first one stays. -/
theorem map_components_distinctPaths (ps : List Path) :
    (distinctPaths ps).map Path.components = (ps.map Path.components).eraseDups := by
  -- the fold keeps the components seen beside the paths kept, both last first
  suffices ∀ kept : List Path,
      ((ps.foldl (fun s p =>
        if s.1.contains p.components then s else (p.components :: s.1, p :: s.2))
        (kept.map Path.components, kept)).2.reverse).map Path.components =
      List.eraseDupsBy.loop (· == ·) (ps.map Path.components) (kept.map Path.components) from
    this []
  induction ps with
  | nil => exact fun kept => List.map_reverse
  | cons p ps ih =>
      intro kept
      rw [List.foldl_cons, List.map_cons, List.eraseDupsBy.loop, ← List.contains_eq_any_beq]
      cases hseen : (kept.map Path.components).contains p.components with
      | true =>
          rw [if_pos rfl]
          exact ih kept
      | false =>
          rw [if_neg Bool.false_ne_true]
          exact ih (p :: kept)

theorem map_components_congr {ps qs : List Path} (h : List.Forall₂ Path.Same ps qs) :
    ps.map Path.components = qs.map Path.components := by
  induction h with
  | nil => rfl
  | cons hsame _ ih => rw [List.map_cons, List.map_cons, ih, hsame]

namespace SearchPaths

/-! ### The way up to the project root -/

variable {rs ns ts : List Text}

theorem untilRoot_congr {root : Path} {ds es : List Path} (h : List.Forall₂ Path.Same ds es) :
    List.Forall₂ Path.Same (untilRoot root ds) (untilRoot root es) := by
  induction h with
  | nil => exact .nil
  | @cons d e ds es hsame _ ih =>
      have hroot : d.Same root ↔ e.Same root := by
        rw [Path.Same, show d.components = e.components from hsame]
        exact Iff.rfl
      rw [untilRoot, untilRoot]
      by_cases hd : d.Same root
      · rw [if_pos hd, if_pos (hroot.mp hd)]
        exact .cons hsame .nil
      · rw [if_neg hd, if_neg fun he => hd (hroot.mpr he)]
        exact .cons hsame ih

/-- A way that does not pass the project root is gone to its end. -/
theorem untilRoot_of_forall_not_same {root : Path} {ds : List Path}
    (h : ∀ d ∈ ds, ¬ d.Same root) : untilRoot root ds = ds := by
  induction ds with
  | nil => rfl
  | cons d ds ih =>
      rw [untilRoot, if_neg (h d List.mem_cons_self),
        ih fun e he => h e (List.mem_cons_of_mem d he)]

/-- The paths above the one with some names, the nearest first. -/
def above (ns : List Text) : List Path := ns.inits.dropLast.reverse.map ofNames

theorem above_concat (ns : List Text) (n : Text) :
    above (ns ++ [n]) = ns.inits.reverse.map ofNames := by
  rw [above, List.inits_append]
  simp

theorem ancestors_eq_cons_above (h : AreNames ns) :
    (ofNames ns).ancestors = ofNames ns :: above ns := by
  rcases List.eq_nil_or_concat ns with rfl | ⟨up, n, rfl⟩
  · rw [Path.ancestors_of_parent_eq_none rfl]
    rfl
  · rw [List.concat_eq_append] at h ⊢
    obtain ⟨hup, hn⟩ := Path.areNames_append.mp h
    rw [Path.ancestors_ofNames_concat hup (hn n List.mem_cons_self), Path.ancestors_ofNames hup,
      above_concat]

/-- **The halves meet**: the way up to the project root goes on above it. -/
theorem untilRoot_append_above (h : AreNames (rs ++ ts)) :
    untilRoot (ofNames rs) (ofNames (rs ++ ts)).ancestors ++ above rs =
      (ofNames (rs ++ ts)).ancestors := by
  induction ts using List.reverseRecOn with
  | nil =>
      rw [List.append_nil] at h ⊢
      rw [ancestors_eq_cons_above h, untilRoot,
        if_pos (show (ofNames rs).Same (ofNames rs) from rfl)]
      rfl
  | append_singleton ts t ih =>
      rw [← List.append_assoc] at h ⊢
      obtain ⟨hbelow, ht⟩ := Path.areNames_append.mp h
      have hne : ¬ (ofNames (rs ++ ts ++ [t])).Same (ofNames rs) := by
        intro hsame
        have := Path.eq_of_components_ofNames h (Path.areNames_append.mp hbelow).1 hsame
        simpa using congrArg List.length this
      rw [Path.ancestors_ofNames_concat hbelow (ht t List.mem_cons_self), untilRoot, if_neg hne,
        List.cons_append, ih hbelow]

/-! ### The list that is made -/

/-- The dependency folders of the directory with some names and of all above it, the nearest
first. -/
def foldersFrom (ns : List Text) : List Path :=
  ns.inits.reverse.map fun up => ofNames (up ++ [dependencyFolder])

theorem isName_dependencyFolder : IsName dependencyFolder := by decide

theorem map_join_dependencyFolder {ups : List (List Text)} (h : ∀ up ∈ ups, AreNames up) :
    (ups.map ofNames).map (fun d => d.join ⟨dependencyFolder⟩) =
      ups.map fun up => ofNames (up ++ [dependencyFolder]) := by
  rw [List.map_map]
  exact List.map_congr_left fun up hup => Path.join_ofNames (h up hup) isName_dependencyFolder

theorem dependencyChain_ofNames (h : AreNames ns) :
    dependencyChain (ofNames ns) = foldersFrom ns := by
  rw [dependencyChain, Path.ancestors_ofNames h, map_join_dependencyFolder]
  · rfl
  · intro up hup
    exact h.of_beginning ((List.mem_inits up ns).mp (List.mem_reverse.mp hup))

theorem aboveRoot_new (h : AreNames rs) (globals : List Path) :
    (SearchPaths.new (ofNames rs) globals).aboveRoot =
      (above rs).map fun d => d.join ⟨dependencyFolder⟩ := by
  rcases List.eq_nil_or_concat rs with rfl | ⟨up, r, rfl⟩
  · rfl
  · rw [List.concat_eq_append] at h ⊢
    obtain ⟨hup, hr⟩ := Path.areNames_append.mp h
    rw [above_concat, ← Path.ancestors_ofNames hup, SearchPaths.new,
      Path.parent_ofNames_concat hup (hr r List.mem_cons_self)]
    rfl

theorem nodup_inits (ns : List Text) : ns.inits.Nodup := by
  induction ns using List.reverseRecOn with
  | nil => exact List.nodup_singleton []
  | append_singleton ns n ih =>
      have hinits : (ns ++ [n]).inits = ns.inits ++ [ns ++ [n]] := by simp [List.inits_append]
      rw [hinits, List.nodup_append]
      refine ⟨ih, List.nodup_singleton _, fun up hup last hlast heq => ?_⟩
      rw [List.mem_singleton.mp hlast] at heq
      have hlength := ((List.mem_inits up ns).mp hup).length_le
      rw [heq, List.length_append] at hlength
      exact absurd hlength (by simp)

/-- The folders of a walk are different ones. -/
theorem nodup_foldersFrom (h : AreNames ns) : ((foldersFrom ns).map Path.components).Nodup := by
  have hnames : ∀ up ∈ ns.inits.reverse, AreNames (up ++ [dependencyFolder]) := fun up hup =>
    (h.of_beginning ((List.mem_inits up ns).mp (List.mem_reverse.mp hup))).concat
      isName_dependencyFolder
  rw [foldersFrom, List.map_map]
  refine (List.nodup_reverse.mpr (nodup_inits ns)).map_on fun up hup up' hup' heq => ?_
  exact List.append_inj_left' (Path.eq_of_components_ofNames (hnames up hup) (hnames up' hup') heq)
    rfl

theorem map_components_build (s : SearchPaths) (dir : Path) :
    (s.build dir).map Path.components =
      (((untilRoot s.projectRoot dir.ancestors).map (fun d => d.join ⟨dependencyFolder⟩)
        ++ s.aboveRoot ++ s.globals).map Path.components).eraseDups :=
  map_components_distinctPaths _

/-- **Below the project root** the list is one walk to the top, and then the global directories. -/
theorem build_of_isPrefix (h : AreNames ns) (hp : rs <+: ns) (globals : List Path) :
    ((SearchPaths.new (ofNames rs) globals).build (ofNames ns)).map Path.components =
      ((foldersFrom ns ++ globals).map Path.components).eraseDups := by
  obtain ⟨ts, rfl⟩ := hp
  rw [map_components_build, aboveRoot_new (Path.areNames_append.mp h).1, ← List.map_append]
  change (((untilRoot (ofNames rs) (ofNames (rs ++ ts)).ancestors ++ above rs).map _ ++
    globals).map Path.components).eraseDups = _
  rw [untilRoot_append_above h, ← dependencyChain_ofNames h]
  rfl

/-- **Elsewhere** the list is the walk to the top, the walk from above the project root, and then
the global directories. -/
theorem build_of_not_isPrefix (hr : AreNames rs) (h : AreNames ns) (hp : ¬ rs <+: ns)
    (globals : List Path) :
    ((SearchPaths.new (ofNames rs) globals).build (ofNames ns)).map Path.components =
      ((foldersFrom ns ++ foldersFrom rs.dropLast ++ globals).map Path.components).eraseDups := by
  rcases List.eq_nil_or_concat rs with rfl | ⟨up, r, rfl⟩
  · exact absurd ns.nil_prefix hp
  · rw [List.concat_eq_append] at hr hp ⊢
    obtain ⟨hup, -⟩ := Path.areNames_append.mp hr
    have hway : untilRoot (ofNames (up ++ [r])) (ofNames ns).ancestors =
        (ofNames ns).ancestors := by
      refine untilRoot_of_forall_not_same fun d hd hsame => ?_
      obtain ⟨top, htop, rfl⟩ := (Path.mem_ancestors_ofNames h).mp hd
      exact hp (Path.eq_of_components_ofNames (h.of_beginning htop) hr hsame ▸ htop)
    rw [map_components_build, aboveRoot_new hr, above_concat, ← Path.ancestors_ofNames hup,
      List.dropLast_concat, ← dependencyChain_ofNames h, ← dependencyChain_ofNames hup]
    change (((untilRoot (ofNames (up ++ [r])) (ofNames ns).ancestors).map _ ++ _ ++
      globals).map Path.components).eraseDups = _
    rw [hway]
    rfl

/-! ### Lists that are kept -/

/-- Search paths after some requests. -/
def after (s : SearchPaths) (dirs : List Path) : SearchPaths :=
  dirs.foldl (fun s dir => (s.forDirectory dir).2) s

/-- Search paths that make the lists that `origin` makes, and keep such lists only: each was made
for some spelling of its directory. -/
structure MadeFrom (origin s : SearchPaths) : Prop where
  build : s.build = origin.build
  memo : ∀ key kept, s.memo.get? key = some kept →
    ∃ dir, dir.components = key ∧ kept.value = origin.build dir

variable {origin s : SearchPaths}

/-- Lists for two spellings of one directory name the same. -/
theorem map_components_build_congr (s : SearchPaths) {dir dir' : Path} (h : dir.Same dir') :
    (s.build dir).map Path.components = (s.build dir').map Path.components := by
  have hway : List.Forall₂ Path.Same (untilRoot s.projectRoot dir.ancestors)
      (untilRoot s.projectRoot dir'.ancestors) := untilRoot_congr h.ancestors
  rw [map_components_build, map_components_build]
  simp only [List.map_append]
  rw [map_components_congr (List.forall₂_map_left_iff.mpr (List.forall₂_map_right_iff.mpr
    (hway.imp fun _ _ hsame => hsame.join ⟨dependencyFolder⟩)))]

/-- **A request** is answered with the list that would be made, and keeps such a list. -/
theorem MadeFrom.forDirectory (h : MadeFrom origin s) (dir : Path) :
    (s.forDirectory dir).1.value.map Path.components = (origin.build dir).map Path.components ∧
      MadeFrom origin (s.forDirectory dir).2 := by
  unfold SearchPaths.forDirectory
  cases hkept : s.memo.get? dir.components with
  | some kept =>
      obtain ⟨dir', hsame, hvalue⟩ := h.memo _ kept hkept
      refine ⟨?_, h⟩
      rw [hvalue]
      exact map_components_build_congr origin hsame
  | none =>
      refine ⟨by rw [h.build], h.build, fun key kept hk => ?_⟩
      simp only [Table.get?_insert] at hk
      split at hk
      · next hkey =>
        cases hk
        exact ⟨dir, hkey.symm, congrFun h.build dir⟩
      · exact h.memo key kept hk

theorem MadeFrom.after (h : MadeFrom origin s) (dirs : List Path) :
    MadeFrom origin (s.after dirs) := by
  induction dirs generalizing s with
  | nil => exact h
  | cons dir dirs ih => exact ih (h.forDirectory dir).2

theorem madeFrom_new (root : Path) (globals : List Path) :
    MadeFrom (SearchPaths.new root globals) (SearchPaths.new root globals) where
  build := rfl
  memo _ _ h := by cases h

/-! ### The list of a directory -/

/-- **The list of a directory** for a project, both absolute and in normal form, after any earlier
requests, also for directories that are spelled in other ways.  Paths are compared by what they
name.

* No path comes twice.
* If the project root is the directory or one of its ancestors, the list is the dependency folders
  of the directory and of all above it, the nearest first, and then the global directories, each
  path where it comes first.  Since the folders are different ones they all stand at the front, and
  behind them the global directories that are not among them, in the order given.
* If not, the folders above the project root come between these two.
-/
theorem forDirectory_eq {root dir : Path} (hroot : root.isAbsolute = true)
    (hr : root.normalize = root) (hdir : dir.isAbsolute = true) (hd : dir.normalize = dir)
    (globals earlier : List Path) :
    let list := (((SearchPaths.new root globals).after earlier).forDirectory dir).1.value.map
      Path.components
    let folders (ns : List Text) := (foldersFrom ns).map Path.components
    let given := globals.map Path.components
    list.Nodup ∧
      (root ∈ dir.ancestors →
        list = (folders dir.names ++ given).eraseDups ∧
          list = folders dir.names ++ (given.removeAll (folders dir.names)).eraseDups) ∧
      (root ∉ dir.ancestors →
        let locals := folders dir.names ++ folders root.names.dropLast
        list = (locals ++ given).eraseDups ∧
          list = locals.eraseDups ++ (given.removeAll locals).eraseDups) := by
  intro list folders given
  obtain ⟨rs, hrs, hrs'⟩ := Path.exists_normalize_eq_ofNames hroot
  obtain ⟨ns, hns, hns'⟩ := Path.exists_normalize_eq_ofNames hdir
  obtain rfl : root = ofNames rs := hr.symm.trans hrs'
  obtain rfl : dir = ofNames ns := hd.symm.trans hns'
  have hlist : list = ((SearchPaths.new (ofNames rs) globals).build (ofNames ns)).map
      Path.components := (((madeFrom_new _ globals).after earlier).forDirectory _).1
  have hway : ofNames rs ∈ (ofNames ns).ancestors ↔ rs <+: ns := by
    rw [Path.mem_ancestors_ofNames hns]
    constructor
    · rintro ⟨up, hup, heq⟩
      rwa [Path.eq_of_components_ofNames hrs (hns.of_beginning hup) (congrArg _ heq)]
    · exact fun hp => ⟨rs, hp, rfl⟩
  rw [hway, Path.names_ofNames hns, Path.names_ofNames hrs]
  refine ⟨?_, fun hp => ?_, fun hp => ?_⟩
  · rw [hlist, map_components_build]
    exact nodup_eraseDups _
  · have h := hlist.trans (build_of_isPrefix hns hp globals)
    rw [List.map_append] at h
    refine ⟨h, ?_⟩
    rw [h, List.eraseDups_append, eraseDups_of_nodup (nodup_foldersFrom hns)]
  · have h := hlist.trans (build_of_not_isPrefix hrs hns hp globals)
    rw [List.map_append, List.map_append] at h
    exact ⟨h, h.trans List.eraseDups_append⟩

/-- In a project below another folder, the folders of a directory come first, also after the list
for another spelling of it was made; of the two global directories the one that is among them
stays where it is. -/
theorem forDirectory_inProject :
    let root := Path.ofString "/w/a"
    let dir := Path.ofString "/w/a/b"
    let globals := [Path.ofString "/w/node_modules", Path.ofString "/usr//lib"]
    let earlier := [Path.ofString "/w/./a//b"]
    (root.isAbsolute = true ∧ root.normalize = root) ∧
      (dir.isAbsolute = true ∧ dir.normalize = dir) ∧ root ∈ dir.ancestors ∧
      ((((SearchPaths.new root globals).after earlier).forDirectory dir).1.value.map
        Path.components) =
      [Path.ofString "/w/a/b/node_modules", Path.ofString "/w/a/node_modules",
        Path.ofString "/w/node_modules", Path.ofString "/node_modules",
        Path.ofString "/usr/lib"].map Path.components := by
  intro root dir globals earlier
  have hnames : AreNames ["w".toList, "a".toList, "b".toList] := by decide
  have hway : root ∈ dir.ancestors := (Path.mem_ancestors_ofNames hnames).mpr
    ⟨["w".toList, "a".toList], by decide, rfl⟩
  have hroot : root.normalize = root := by decide
  have hdir : dir.normalize = dir := by decide
  obtain ⟨-, hlist, -⟩ := forDirectory_eq rfl hroot rfl hdir globals earlier
  refine ⟨⟨rfl, hroot⟩, ⟨rfl, hdir⟩, hway, (hlist hway).1.trans ?_⟩
  decide +kernel

end SearchPaths

end ImportLint
