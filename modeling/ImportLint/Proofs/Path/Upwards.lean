import Mathlib.Data.List.Chain
import ImportLint.Files.Memory
import ImportLint.Project.Sources
import ImportLint.Proofs.Path.Ancestors

/-!
# Paths — the whole walk upwards

A walk upwards goes through all beginnings of the components of a path, the longest first: with
each step there is one component less, and before there is none the walk ends.  What `.`, `..` and
slashes a path is spelled with does not matter.

* `Path.onward`, `Path.Walk`: a walk that is asked for one directory after the other.
* `Path.climb`: induction along a walk.
* `Path.Walk.told_start`: a walk tells the ancestors, and then nothing.
* `Path.map_components_ancestors`: what the ancestors name.
* `findUp_eq_none_iff`, `findUp_eq_some_iff`: the nearest file with a name.
* `ancestors_chain`: the walk from any path, and the search along it.
-/

namespace ImportLint

namespace Path

/-! ### Step by step -/

/-- Where a walk goes on from a directory: to the parent, unless this is empty or the directory
itself. -/
def onward (dir : Path) : Option Path :=
  dir.parent.filter fun up => !up.chars.isEmpty && !decide (up.Same dir)

/-- A walk that is asked for one directory after the other. -/
structure Walk where
  /-- The directory that is told next; a walk that has ended has none. -/
  next : Option Path

namespace Walk

/-- The walk that starts at a directory. -/
def start (dir : Path) : Walk := ⟨some dir⟩

/-- Tells a directory and goes on from it. -/
def advance (w : Walk) : Option Path × Walk := (w.next, ⟨w.next.bind onward⟩)

/-- What is told after a number of other directories. -/
def told (w : Walk) : Nat → Option Path
  | 0 => w.advance.1
  | n + 1 => w.advance.2.told n

/-- A walk that has ended stays so. -/
theorem told_of_end (n : Nat) : (Walk.mk none).told n = none := by
  induction n with
  | zero => rfl
  | succ n ih => exact ih

end Walk

/-- **One step**: a walk ends at a path of at most one component, and goes on to the parent of
any other. -/
theorem onward_cases (p : Path) :
    p.components.length ≤ 1 ∧ p.onward = none ∧ p.ancestors = [p] ∨
      ∃ up, p.parent = some up ∧ up.components = p.components.dropLast ∧
        2 ≤ p.components.length ∧ p.onward = some up ∧ p.ancestors = p :: up.ancestors := by
  cases hup : p.parent with
  | none =>
      refine Or.inl ⟨?_, by rw [onward, hup]; rfl, ancestors_of_parent_eq_none hup⟩
      rcases components_of_parent_eq_none hup with h | h <;> simp [h]
  | some up =>
      have hc := components_parent hup
      have hlength : up.components.length = p.components.length - 1 := by
        rw [hc, List.length_dropLast]
      rw [ancestors_of_parent_eq_some hup, onward, hup]
      by_cases hempty : up.chars = []
      · rw [components_eq_nil_iff.mpr hempty, List.length_nil] at hlength
        exact Or.inl ⟨by omega, by simp [hempty], by simp [hempty]⟩
      · have hpos := List.length_pos_of_ne_nil fun e => hempty (components_eq_nil_iff.mp e)
        -- one component less is another path, so this never ends a walk
        have hne : ¬ up.Same p := fun e => by
          have : up.components.length = p.components.length := congrArg List.length e
          omega
        exact Or.inr ⟨up, rfl, hc, by omega, by simp [hempty, hne], by simp [hempty]⟩

/-- Induction along the walk upwards from a path. -/
theorem climb {motive : Path → Prop}
    (short : ∀ p, p.components.length ≤ 1 → p.onward = none → p.ancestors = [p] → motive p)
    (step : ∀ p up, p.parent = some up → up.components = p.components.dropLast →
      2 ≤ p.components.length → p.onward = some up → p.ancestors = p :: up.ancestors →
      motive up → motive p)
    (p : Path) : motive p := by
  obtain ⟨h, hon, ha⟩ | ⟨up, hup, hc, h, hon, ha⟩ := p.onward_cases
  · exact short p h hon ha
  · exact step p up hup hc h hon ha (climb short step up)
termination_by p.chars.length
decreasing_by exact parent_length_lt hup

/-- **A walk** tells the ancestors of the path where it starts, and then nothing. -/
theorem Walk.told_start (p : Path) (n : Nat) : (start p).told n = p.ancestors[n]? := by
  induction p using climb generalizing n with
  | short p _ hon ha =>
      rw [ha]
      cases n with
      | zero => rfl
      | succ n =>
          change (Walk.mk p.onward).told n = none
          rw [hon, told_of_end]
  | step p up _ _ _ hon ha ih =>
      rw [ha]
      cases n with
      | zero => rfl
      | succ n =>
          change (Walk.mk p.onward).told n = up.ancestors[n]?
          rw [hon]
          exact ih n

/-! ### All of a walk -/

theorem head?_ancestors (p : Path) : p.ancestors.head? = some p := by
  rw [ancestors]
  rfl

/-- From one ancestor to the next there is one component less. -/
theorem isChain_ancestors (p : Path) :
    p.ancestors.IsChain fun dir up =>
      dir.parent = some up ∧ up.components.length + 1 = dir.components.length := by
  induction p using climb with
  | short p _ _ ha =>
      rw [ha]
      exact List.isChain_singleton p
  | step p up hup hc h _ ha ih =>
      rw [ha, List.isChain_cons]
      refine ⟨fun next hnext => ?_, ih⟩
      rw [head?_ancestors, Option.mem_some_iff] at hnext
      subst hnext
      exact ⟨hup, by rw [hc, List.length_dropLast]; omega⟩

/-- **What the ancestors name**: the beginnings of the components, the longest first.  The empty
one is left out, unless the walk starts with it. -/
theorem map_components_ancestors (p : Path) :
    p.ancestors.map components =
      if p.components = [] then [[]] else p.components.inits.tail.reverse := by
  induction p using climb with
  | short p h _ ha =>
      rw [ha]
      match hc : p.components, h with
      | [], _ => simp [hc]
      | [c], _ => simp [hc]
  | step p up _ hc h _ ha ih =>
      have hne : p.components ≠ [] := List.ne_nil_of_length_pos (by omega)
      have hup : up.components ≠ [] := by
        refine List.ne_nil_of_length_pos ?_
        rw [hc, List.length_dropLast]
        omega
      rw [if_neg hup, hc] at ih
      rw [ha, List.map_cons, ih, if_neg hne]
      obtain ⟨cs, c, hcs⟩ := List.eq_nil_or_concat p.components |>.resolve_left hne
      rw [List.concat_eq_append] at hcs
      have hinits : (cs ++ [c]).inits = cs.inits ++ [cs ++ [c]] := by simp [List.inits_append]
      have hnonempty : cs.inits ≠ [] :=
        List.ne_nil_of_mem ((List.mem_inits [] cs).mpr cs.nil_prefix)
      rw [hcs, List.dropLast_concat, hinits, List.tail_append_of_ne_nil hnonempty,
        List.reverse_append]
      rfl

theorem length_ancestors (p : Path) : p.ancestors.length = max 1 p.components.length := by
  have hlength := congrArg List.length p.map_components_ancestors
  rw [List.length_map] at hlength
  rw [hlength]
  split
  · next h => rw [h]; rfl
  · next h =>
    have := List.length_pos_of_ne_nil h
    simp
    omega

/-- An ancestor names a beginning of what the path names, and nothing only if the path does. -/
theorem components_of_mem_ancestors {p dir : Path} (h : dir ∈ p.ancestors) :
    dir.components <+: p.components ∧ (dir.components = [] → p.components = []) := by
  have hmem := List.mem_map_of_mem (f := components) h
  rw [map_components_ancestors] at hmem
  cases hp : p.components with
  | nil =>
      rw [hp, if_pos rfl, List.mem_singleton] at hmem
      exact ⟨hmem ▸ List.prefix_refl [], fun _ => rfl⟩
  | cons c cs =>
      rw [hp, if_neg (List.cons_ne_nil c cs), List.mem_reverse, List.inits_cons, List.tail_cons,
        List.mem_map] at hmem
      obtain ⟨beginning, hbeginning, hdir⟩ := hmem
      rw [← hdir]
      exact ⟨List.cons_prefix_cons.mpr ⟨rfl, (List.mem_inits _ _).mp hbeginning⟩, nofun⟩

theorem startsWith_of_mem_ancestors {p dir : Path} (h : dir ∈ p.ancestors) :
    p.startsWith dir = true :=
  List.isPrefixOf_iff_prefix.mpr (components_of_mem_ancestors h).1

/-- The empty path is on no walk but its own. -/
theorem empty_mem_ancestors_iff {p : Path} : ⟨[]⟩ ∈ p.ancestors ↔ p = ⟨[]⟩ := by
  refine ⟨fun h => ?_, fun h => ?_⟩
  · have hempty : Path.components ⟨[]⟩ = [] := rfl
    exact congrArg Path.mk (components_eq_nil_iff.mp ((components_of_mem_ancestors h).2 hempty))
  · exact h ▸ List.mem_of_head? (head?_ancestors _)

/-- The walk from an absolute path ends at the root. -/
theorem getLast?_ancestors {p : Path} (hp : p.isAbsolute = true) :
    ∃ top, p.ancestors.getLast? = some top ∧ top.Same (ofString "/") := by
  have hcomponents : p.components = .root :: named p.chars := by
    rw [components_eq, front_of_isAbsolute hp]
    rfl
  have hlast := congrArg List.getLast? p.map_components_ancestors
  rw [hcomponents, if_neg (List.cons_ne_nil _ _), List.inits_cons, List.tail_cons,
    List.getLast?_reverse, List.getLast?_map] at hlast
  have hfirst : ((named p.chars).inits.map fun t => Component.root :: t).head? = some [.root] := by
    cases named p.chars <;> rfl
  rw [hfirst] at hlast
  obtain ⟨top, htop, hroot⟩ := Option.map_eq_some_iff.mp hlast
  exact ⟨top, htop, hroot⟩

end Path

/-! ### The nearest file -/

/-- A regular file stands at a path. -/
def FileView.HasFile (view : FileView) (p : Path) : Prop :=
  ∃ s, view.stat p = .ok s ∧ s.isFile = true

theorem FileView.isFile_iff {view : FileView} {p : Path} :
    view.isFile p = true ↔ view.HasFile p := by
  unfold FileView.isFile FileView.HasFile
  cases view.stat p <;> simp

theorem findUp_eq_none_iff {view : FileView} {start : Path} {name : Text} :
    findUp view start name = none ↔
      ∀ dir ∈ start.ancestors, ¬ view.HasFile (dir.join ⟨name⟩) := by
  rw [findUp, List.find?_eq_none, List.forall_mem_map]
  simp only [FileView.isFile_iff]

/-- **The nearest file** is in the first directory of the walk that has one. -/
theorem findUp_eq_some_iff {view : FileView} {start found : Path} {name : Text} :
    findUp view start name = some found ↔
      ∃ nearer dir farther, start.ancestors = nearer ++ dir :: farther ∧
        found = dir.join ⟨name⟩ ∧ view.HasFile (dir.join ⟨name⟩) ∧
        ∀ d ∈ nearer, ¬ view.HasFile (d.join ⟨name⟩) := by
  rw [findUp, List.find?_map, Option.map_eq_some_iff]
  constructor
  · rintro ⟨dir, hdir, rfl⟩
    obtain ⟨hfile, nearer, farther, hwalk, hnone⟩ := List.find?_eq_some_iff_append.mp hdir
    refine ⟨nearer, dir, farther, hwalk, rfl, FileView.isFile_iff.mp hfile, fun d hd hf => ?_⟩
    have := hnone d hd
    rw [Function.comp_apply, FileView.isFile_iff.mpr hf] at this
    cases this
  · rintro ⟨nearer, dir, farther, hwalk, rfl, hfile, hnone⟩
    refine ⟨dir, List.find?_eq_some_iff_append.mpr
      ⟨FileView.isFile_iff.mpr hfile, nearer, farther, hwalk, fun d hd => ?_⟩, rfl⟩
    rw [Function.comp_apply, Bool.not_eq_true', ← Bool.not_eq_true, FileView.isFile_iff]
    exact hnone d hd

/-- **The walk from any path**, and the search along it.

* Asked for one directory after the other it tells the ancestors, and then nothing.
* There are as many ancestors as the path has components, or the path itself if it has none.
* The path comes first, and behind each directory its parent, with one component less.
* The path is below each of them.  None is empty unless the path is, and the last one of an
  absolute path is the root.
* A search tells the file with the name in the first directory that has one, and nothing if no
  directory has one. -/
theorem ancestors_chain (p : Path) :
    (∀ n, (Path.Walk.start p).told n = p.ancestors[n]?) ∧
      p.ancestors.length = max 1 p.components.length ∧
      p.ancestors.head? = some p ∧
      p.ancestors.IsChain (fun dir up =>
        dir.parent = some up ∧ up.components.length + 1 = dir.components.length) ∧
      (∀ dir ∈ p.ancestors, p.startsWith dir = true) ∧
      (⟨[]⟩ ∈ p.ancestors ↔ p = ⟨[]⟩) ∧
      (p.isAbsolute = true →
        ∃ top, p.ancestors.getLast? = some top ∧ top.Same (.ofString "/")) ∧
      ∀ (view : FileView) (name : Text),
        (findUp view p name = none ↔
          ∀ dir ∈ p.ancestors, ¬ view.HasFile (dir.join ⟨name⟩)) ∧
        ∀ found, findUp view p name = some found ↔
          ∃ nearer dir farther, p.ancestors = nearer ++ dir :: farther ∧
            found = dir.join ⟨name⟩ ∧ view.HasFile (dir.join ⟨name⟩) ∧
            ∀ d ∈ nearer, ¬ view.HasFile (d.join ⟨name⟩) :=
  ⟨Path.Walk.told_start p, p.length_ancestors, p.head?_ancestors, p.isChain_ancestors,
    fun _ => Path.startsWith_of_mem_ancestors, Path.empty_mem_ancestors_iff,
    Path.getLast?_ancestors, fun _ _ => ⟨findUp_eq_none_iff, fun _ => findUp_eq_some_iff⟩⟩

/-- A directory that is spelled in a roundabout way. -/
def roundabout : Path := .ofString "/a/.././b//c/"

/-- Two files of one name above the directory. -/
def twoLevels : MemoryTree :=
  .ofFiles [(.ofString "/x.json", []), (.ofString "/a/../x.json", [])]

theorem ancestors_roundabout :
    roundabout.isAbsolute = true ∧ roundabout.ancestors.length = 5 ∧
      (∃ top, roundabout.ancestors.getLast? = some top ∧ top.Same (.ofString "/")) ∧
      findUp twoLevels.view roundabout "x.json".toList = some (.ofString "/a/../x.json") := by
  have hwalk : roundabout.ancestors =
      [roundabout, .ofString "/a/.././b"] ++
        .ofString "/a/.." :: [.ofString "/a", .ofString "/"] := by cbv
  have hnone : ∀ d ∈ [roundabout, .ofString "/a/.././b"],
      twoLevels.view.isFile (d.join ⟨"x.json".toList⟩) = false := by decide
  obtain ⟨-, hlength, -, -, -, -, htop, hsearch⟩ := ancestors_chain roundabout
  refine ⟨rfl, hlength.trans (by decide), htop rfl, ((hsearch _ _).2 _).mpr
    ⟨_, _, _, hwalk, by decide, FileView.isFile_iff.mp (by decide), fun d hd hfile => ?_⟩⟩
  rw [← FileView.isFile_iff, hnone d hd] at hfile
  cases hfile

/-- A relative path. -/
example : (Path.ofString "./../a//.").ancestors = [.ofString "./../a//.", .ofString "./..",
    .ofString "."] := by
  cbv

end ImportLint
