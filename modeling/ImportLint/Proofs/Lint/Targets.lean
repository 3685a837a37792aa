import Mathlib
import ImportLint.CommandLine.Program
import ImportLint.Proofs.Files.Walks
import ImportLint.Proofs.Path.Order

/-!
# Linting — the files that arguments name are a set

What is checked depends on the files that the arguments name and on nothing else about them:
neither on their order and number nor on their spelling.  A file that is named beside its
directory adds nothing if the walk of the directory lists it.  The walk passes over some files,
and these are checked if they are named.

* `targets`: the files that arguments name; `mem_targets` says which.
* `IsTarget`: what is known of each of them.
* `SameFiles`: arguments of which each is covered by the others.
* `targets_form_set`: the laws of a set, and that a run of the program goes by it.
* `targets_beside_skipped`: the boundary, a file that the walk of its directory passes over.
-/

namespace ImportLint

open ImportLint.Path (AreNames ofNames)

/-- The files that arguments name; none if there is nothing to check. -/
def targets (disk : Disk) (cwd : Path) (arguments : List Path) : List Path :=
  (lintTargets disk cwd arguments).toOption.getD []

/-- The files that one path names. -/
def filesNamed (disk : Disk) (p : Path) : List Path :=
  if (disk.view none).isDirectory p then modulesBelow disk p
  else if (disk.view none).isFile p && isLintable p then [p] else []

/-- What is known of a file that is to be checked: it has an absolute path in normal form, is a
module with code in it and is a regular file. -/
structure IsTarget (disk : Disk) (p : Path) : Prop where
  isAbsolute : p.isAbsolute = true
  normal : p.normalize = p
  lintable : isLintable p = true
  isFile : (disk.view none).isFile p = true

variable {disk : Disk} {cwd p : Path} {as bs : List Path}

/-! ### What one path names -/

/-- A regular file is no directory. -/
theorem isDirectory_of_isFile {d : Option Path} (h : (disk.view d).isFile p = true) :
    (disk.view d).isDirectory p = false := by
  unfold FileView.isFile at h
  unfold FileView.isDirectory
  simp only [Disk.view, Disk.stat] at h ⊢
  cases hr : disk.resolve d p with
  | error f => rfl
  | ok found =>
      obtain ⟨place, node⟩ := found
      rw [hr] at h
      cases node with
      | file content => rfl
      | directory => cases h
      | link target => cases h

/-- The name of a path of names is the last one. -/
theorem fileName_ofNames_concat {ns : List Text} (hns : AreNames ns) {n : Text}
    (hn : Path.IsName n) : (ofNames (ns ++ [n])).fileName = some n := by
  rw [Path.fileName, Path.components_ofNames (hns.concat hn), List.map_append, ← List.cons_append,
    List.map_singleton, List.getLast?_concat]

/-- No walk goes into a folder that is to be skipped. -/
theorem not_mem_skippedFolders {view : FileView} {scope : IgnoreScope} {rs place names : List Text}
    (hd : disk.IsProper) (hrs : AreNames rs)
    (h : disk.Descends (IgnoreScope.enter view) IgnoreScope.admits scope (ofNames rs) place names) :
    ∀ n ∈ names.dropLast, n ∉ skippedFolders := by
  generalize hdir : ofNames rs = dir at h
  induction h generalizing rs with
  | entry => exact fun n hn => nomatch hn
  | @down scope dir place name names hmem hadmits hway ih =>
      subst hdir
      have hname : Path.IsName name :=
        (Path.areNames_append.mp (hd _ hmem)).2 name List.mem_cons_self
      have hjoin := Path.join_ofNames hrs hname
      have hne : names ≠ [] := by cases hway <;> exact List.cons_ne_nil _ _
      intro n hn
      rw [List.dropLast_cons_of_ne_nil hne] at hn
      rcases List.mem_cons.mp hn with rfl | hn
      · rw [hjoin, IgnoreScope.admits, fileName_ofNames_concat hrs hname] at hadmits
        simpa using (Bool.and_eq_true_iff.mp hadmits).2
      · exact ih (hrs.concat hname) hjoin.symm n hn

/-- **The modules below a directory** are regular files at paths of names, and not in folders that
are to be skipped. -/
theorem of_mem_modulesBelow (hd : disk.IsProper) {rs : List Text} (hrs : AreNames rs)
    (h : p ∈ modulesBelow disk (ofNames rs)) :
    ∃ ms, AreNames ms ∧ p = ofNames (rs ++ ms) ∧ (∀ n ∈ ms.dropLast, n ∉ skippedFolders) ∧
      (disk.view none).isFile p = true ∧ isLintable p = true := by
  unfold modulesBelow at h
  simp only at h
  split at h
  · cases h
  · next place node hr =>
    obtain ⟨hwalk, hkept⟩ := List.mem_filter.mp h
    obtain ⟨hfile, hlintable⟩ := Bool.and_eq_true_iff.mp hkept
    by_cases hnode : node = .directory
    · subst hnode
      obtain ⟨ms, hway, hp⟩ := (Disk.mem_walk hr).mp hwalk
      have hms := hway.areNames hd
      rw [Path.below_ofNames hrs hms] at hp
      exact ⟨ms, hms, hp, not_mem_skippedFolders hd hrs hway, hfile, hlintable⟩
    · rw [Disk.walk_of_ne_directory hr hnode] at hwalk
      refine ⟨[], Path.areNames_nil, ?_, fun n hn => (nomatch hn), hfile, hlintable⟩
      rw [List.append_nil]
      exact List.mem_singleton.mp hwalk

/-- What a path of names names is to be checked. -/
theorem isTarget_of_mem_filesNamed (hd : disk.IsProper) {ns : List Text} (hns : AreNames ns)
    (h : p ∈ filesNamed disk (ofNames ns)) : IsTarget disk p := by
  unfold filesNamed at h
  split at h
  · obtain ⟨ms, hms, rfl, -, hfile, hlintable⟩ := of_mem_modulesBelow hd hns h
    exact ⟨rfl, Path.normalize_ofNames (Path.areNames_append.mpr ⟨hns, hms⟩), hlintable, hfile⟩
  · split at h
    · next hkept =>
      obtain ⟨hfile, hlintable⟩ := Bool.and_eq_true_iff.mp hkept
      cases List.mem_singleton.mp h
      exact ⟨rfl, Path.normalize_ofNames hns, hlintable, hfile⟩
    · cases h

/-- A file that is to be checked names itself. -/
theorem IsTarget.filesNamed (h : IsTarget disk p) : filesNamed disk p = [p] := by
  rw [ImportLint.filesNamed, isDirectory_of_isFile h.isFile, h.isFile, h.lintable]
  rfl

/-! ### What arguments name -/

theorem targets_eq (disk : Disk) (cwd : Path) (as : List Path) :
    targets disk cwd as =
      Path.sorted (as.flatMap fun a => filesNamed disk (cwd.join a).normalize) := by
  unfold targets lintTargets filesNamed
  simp only
  split
  · next h => rw [h]; rfl
  · rfl

/-- There is nothing to check if there are no files. -/
theorem lintTargets_eq (disk : Disk) (cwd : Path) (as : List Path) :
    lintTargets disk cwd as =
      if targets disk cwd as = [] then .error .noInputs else .ok (targets disk cwd as) := by
  rw [targets_eq]
  unfold lintTargets filesNamed
  simp only
  split
  · next h => rw [if_pos h]
  · next h => rw [if_neg h]

theorem isTarget_of_mem_named (hd : disk.IsProper) (hc : cwd.isAbsolute = true) {a : Path}
    (h : p ∈ filesNamed disk (cwd.join a).normalize) : IsTarget disk p := by
  obtain ⟨ns, hns, hnorm⟩ := Path.exists_normalize_eq_ofNames (Path.isAbsolute_join hc a)
  rw [hnorm] at h
  exact isTarget_of_mem_filesNamed hd hns h

/-- **What is to be checked** is what one of the arguments names. -/
theorem mem_targets (hd : disk.IsProper) (hc : cwd.isAbsolute = true) :
    p ∈ targets disk cwd as ↔ ∃ a ∈ as, p ∈ filesNamed disk (cwd.join a).normalize := by
  rw [targets_eq, Path.mem_sorted, List.mem_flatMap]
  intro q hq
  obtain ⟨a, -, hq⟩ := List.mem_flatMap.mp hq
  exact (isTarget_of_mem_named hd hc hq).normal

theorem isTarget_of_mem (hd : disk.IsProper) (hc : cwd.isAbsolute = true)
    (h : p ∈ targets disk cwd as) : IsTarget disk p := by
  obtain ⟨a, -, h⟩ := (mem_targets hd hc).mp h
  exact isTarget_of_mem_named hd hc h

theorem targets_eq_of_mem_iff
    (h : ∀ p, p ∈ targets disk cwd as ↔ p ∈ targets disk cwd bs) :
    targets disk cwd as = targets disk cwd bs := by
  rw [targets_eq, targets_eq] at h ⊢
  exact Path.eq_of_pairwise_before (Path.pairwise_sorted _) (Path.pairwise_sorted _) h

/-- No files are named if no argument names one. -/
theorem targets_eq_nil_iff (hd : disk.IsProper) (hc : cwd.isAbsolute = true) :
    targets disk cwd as = [] ↔ ∀ a ∈ as, targets disk cwd [a] = [] := by
  simp only [List.eq_nil_iff_forall_not_mem, mem_targets hd hc, List.mem_singleton,
    exists_eq_left, not_exists, not_and]
  exact ⟨fun h a ha p => h p a ha, fun h p a ha => h a ha p⟩

/-! ### Arguments that name the same files -/

/-- An argument adds nothing to others: it is another spelling of one of them, or it names a file
that they name. -/
def IsCovered (disk : Disk) (cwd : Path) (others : List Path) (a : Path) : Prop :=
  (∃ b ∈ others, (cwd.join b).normalize = (cwd.join a).normalize) ∨
    (cwd.join a).normalize ∈ targets disk cwd others

/-- Arguments that cover each other: in another order or number, spelled otherwise, or with files
beside directories that list them. -/
def SameFiles (disk : Disk) (cwd : Path) (as bs : List Path) : Prop :=
  (∀ a ∈ as, IsCovered disk cwd bs a) ∧ ∀ b ∈ bs, IsCovered disk cwd as b

theorem mem_targets_of_isCovered (hd : disk.IsProper) (hc : cwd.isAbsolute = true)
    (h : ∀ a ∈ as, IsCovered disk cwd bs a) (hp : p ∈ targets disk cwd as) :
    p ∈ targets disk cwd bs := by
  obtain ⟨a, ha, hp⟩ := (mem_targets hd hc).mp hp
  rcases h a ha with ⟨b, hb, hsame⟩ | hlisted
  · exact (mem_targets hd hc).mpr ⟨b, hb, hsame ▸ hp⟩
  · rw [(isTarget_of_mem hd hc hlisted).filesNamed] at hp
    rwa [List.mem_singleton.mp hp]

theorem SameFiles.targets_eq (h : SameFiles disk cwd as bs) (hd : disk.IsProper)
    (hc : cwd.isAbsolute = true) : targets disk cwd as = targets disk cwd bs :=
  targets_eq_of_mem_iff fun _ =>
    ⟨mem_targets_of_isCovered hd hc h.1, mem_targets_of_isCovered hd hc h.2⟩

/-! ### Runs of the program -/

namespace CommandLine

/-- The reports on the files that are checked. -/
def reportsOf (disk : Disk) (cwd : Path) (nodePath : Option Text) (c : CheckArguments)
    (toolDir : Option Path) (files : List Path) : List Report :=
  ((Linter.new (c.options nodePath toolDir) ()).lintFiles (importEngine none)
    (disk.view (some cwd)) files).1

/-- Arguments that name paths, and else say what others say. -/
def CheckArguments.withPaths (c : CheckArguments) (as : List Path) : CheckArguments :=
  { c with paths := as.map Path.chars }

theorem lintTargets_withPaths (c : CheckArguments) (as : List Path) :
    lintTargets disk cwd ((c.withPaths as).paths.map Path.mk) = lintTargets disk cwd as := by
  rw [CheckArguments.withPaths, List.map_map]
  exact congrArg _ (List.map_id as)

/-- **The exit code** tells whether there is an error among the reports. -/
theorem exitCode_check (nodePath : Option Text) (c : CheckArguments) (toolDir : Option Path)
    (as : List Path) :
    (check disk cwd nodePath (c.withPaths as) toolDir).exitCode =
      if targets disk cwd as = [] then 2
      else if ∃ r ∈ reportsOf disk cwd nodePath c toolDir (targets disk cwd as),
          r.category = .error
        then 1 else 0 := by
  unfold check
  rw [lintTargets_withPaths, lintTargets_eq]
  by_cases h : targets disk cwd as = []
  · rw [if_pos h, if_pos h]
    rfl
  · rw [if_neg h, if_neg h]
    simp only [Summary.ofReports, gt_iff_lt, List.countP_pos_iff, Report.isError, beq_iff_eq]
    rfl

theorem check_congr (h : targets disk cwd as = targets disk cwd bs) (nodePath : Option Text)
    (c : CheckArguments) (toolDir : Option Path) :
    check disk cwd nodePath (c.withPaths as) toolDir =
      check disk cwd nodePath (c.withPaths bs) toolDir := by
  unfold check
  rw [lintTargets_withPaths, lintTargets_withPaths, lintTargets_eq, lintTargets_eq, h]
  rfl

end CommandLine

open CommandLine

/-- **The files that arguments name are a set**, on a disk that stays as it is, wherever the
program lies.

* The files that more arguments name are those that some of them name, in order and each once.
* All are modules with code in them, regular files at absolute paths in normal form.
* There is nothing to check if no argument names a file.
* Arguments that cover each other name the same files, and the program ends in the same way and
  prints the same.
* The exit code is 1 if and only if there is an error among the reports. -/
theorem targets_form_set (hd : disk.IsProper) (hc : cwd.isAbsolute = true) (as bs : List Path)
    (nodePath : Option Text) (c : CheckArguments) (toolDir : Option Path) :
    (targets disk cwd (as ++ bs)).Pairwise (fun p q => p.before q = true) ∧
      (∀ p, p ∈ targets disk cwd (as ++ bs) ↔
        p ∈ targets disk cwd as ∨ p ∈ targets disk cwd bs) ∧
      (∀ p ∈ targets disk cwd as, IsTarget disk p) ∧
      (∀ f, lintTargets disk cwd as = .error f ↔
        f = .noInputs ∧ ∀ a ∈ as, targets disk cwd [a] = []) ∧
      (SameFiles disk cwd as bs → targets disk cwd as = targets disk cwd bs ∧
        check disk cwd nodePath (c.withPaths as) toolDir =
          check disk cwd nodePath (c.withPaths bs) toolDir) ∧
      ((check disk cwd nodePath (c.withPaths as) toolDir).exitCode = 1 ↔
        ∃ r ∈ reportsOf disk cwd nodePath c toolDir (targets disk cwd as),
          r.category = .error) := by
  refine ⟨?_, fun p => ?_, fun p hp => isTarget_of_mem hd hc hp, fun f => ?_, fun h => ?_, ?_⟩
  · rw [targets_eq]
    exact Path.pairwise_sorted _
  · simp only [mem_targets hd hc, List.mem_append, or_and_right, exists_or]
  · rw [lintTargets_eq, ← targets_eq_nil_iff hd hc]
    split
    · next h => exact ⟨fun hf => ⟨(Except.error.inj hf).symm, h⟩, fun hf => hf.1 ▸ rfl⟩
    · next h => exact ⟨fun hf => (nomatch hf), fun hf => absurd hf.2 h⟩
  · exact ⟨h.targets_eq hd hc, check_congr (h.targets_eq hd hc) nodePath c toolDir⟩
  · rw [exitCode_check]
    by_cases hnil : targets disk cwd as = []
    · rw [if_pos hnil, hnil]
      exact ⟨fun h => (nomatch h), fun ⟨_, hr, _⟩ => (nomatch hr)⟩
    · rw [if_neg hnil]
      split
      · next h => exact ⟨fun _ => h, fun _ => rfl⟩
      · next h => exact ⟨fun h' => (nomatch h'), fun h' => absurd h' h⟩

/-- A folder with a module, and with one more in a folder that is skipped. -/
def folder : Disk := ⟨[
  (["p".toList], .directory),
  (["p".toList, "a.ts".toList], .file []),
  (["p".toList, "node_modules".toList], .directory),
  (["p".toList, "node_modules".toList, "x.ts".toList], .file [])]⟩

theorem isProper_folder : folder.IsProper := by decide

theorem resolve_folder :
    folder.resolve none (.ofString "/p") = .ok (["p".toList], .directory) := by cbv

/-- The walk of the folder lists the module. -/
theorem mem_targets_folder :
    Path.ofString "/p/a.ts" ∈ targets folder (.ofString "/p") [.ofString "../p"] := by
  have hnorm : ((Path.ofString "/p").join (.ofString "../p")).normalize = .ofString "/p" := by
    decide +kernel
  have hdirectory : (folder.view none).isDirectory (.ofString "/p") = true := by cbv
  have hfile : (folder.view none).isFile (.ofString "/p/a.ts") = true := by cbv
  have hlintable : isLintable (.ofString "/p/a.ts") = true := by decide +kernel
  refine (mem_targets isProper_folder rfl).mpr ⟨_, List.mem_singleton_self _, ?_⟩
  rw [hnorm, filesNamed, hdirectory, if_pos rfl, modulesBelow]
  simp only [resolve_folder]
  refine List.mem_filter.mpr ⟨?_, by rw [hfile, hlintable]; rfl⟩
  have hplace : (["p".toList] ++ ["a.ts".toList], DiskNode.file []) ∈ folder.places := by decide
  exact (Disk.mem_walk resolve_folder).mpr
    ⟨["a.ts".toList], .entry hplace DiskNode.noConfusion (by cbv), by decide +kernel⟩

/-- The folder, the module in it and another spelling of that are the folder, spelled otherwise. -/
theorem targets_folder :
    let cwd := Path.ofString "/p"
    let as := [Path.ofString ".", .ofString "a.ts", .ofString "./a.ts"]
    let bs := [Path.ofString "../p"]
    folder.IsProper ∧ cwd.isAbsolute = true ∧ SameFiles folder cwd as bs ∧
      targets folder cwd as = targets folder cwd bs ∧
      check folder cwd none (CheckArguments.withPaths {} as) none =
        check folder cwd none (CheckArguments.withPaths {} bs) none := by
  intro cwd as bs
  have hsame : SameFiles folder cwd as bs := by
    refine ⟨fun a ha => ?_, fun b hb => ?_⟩
    · rcases List.mem_cons.mp ha with rfl | ha
      · exact Or.inl ⟨_, List.mem_singleton_self _, by decide +kernel⟩
      · refine Or.inr ?_
        have hnorm : (cwd.join a).normalize = .ofString "/p/a.ts" := by
          rcases List.mem_cons.mp ha with rfl | ha
          · decide +kernel
          · cases List.mem_singleton.mp ha
            decide +kernel
        rw [hnorm]
        exact mem_targets_folder
    · cases List.mem_singleton.mp hb
      exact Or.inl ⟨_, List.mem_cons_self, by decide +kernel⟩
  obtain ⟨-, -, -, -, hlaw, -⟩ := targets_form_set isProper_folder (rfl : cwd.isAbsolute = true)
    as bs none {} none
  exact ⟨isProper_folder, rfl, hsame, hlaw hsame⟩

/-- **The boundary**: a file in the folder that its walk passes over is checked if it is named. -/
theorem targets_beside_skipped :
    let cwd := Path.ofString "/p"
    let dir := Path.ofString "."
    let file := Path.ofString "node_modules/x.ts"
    folder.IsProper ∧ (cwd.join file).normalize.startsWith (cwd.join dir).normalize = true ∧
      IsTarget folder (cwd.join file).normalize ∧
      targets folder cwd [dir, file] ≠ targets folder cwd [dir] := by
  intro cwd dir file
  have hdir : (cwd.join dir).normalize = ofNames ["p".toList] := by decide +kernel
  have hfile : (cwd.join file).normalize =
      ofNames ["p".toList, "node_modules".toList, "x.ts".toList] := by decide +kernel
  have htarget : IsTarget folder (cwd.join file).normalize :=
    ⟨by decide +kernel, Path.normalize_normalize _, by decide +kernel, by rw [hfile]; cbv⟩
  refine ⟨isProper_folder, by decide +kernel, htarget, fun h => ?_⟩
  have hnamed : (cwd.join file).normalize ∈ targets folder cwd [dir, file] :=
    (mem_targets isProper_folder rfl).mpr ⟨file, by decide, by
      rw [htarget.filesNamed]
      exact List.mem_singleton_self _⟩
  rw [h] at hnamed
  obtain ⟨a, ha, hwalk⟩ := (mem_targets isProper_folder rfl).mp hnamed
  cases List.mem_singleton.mp ha
  have hdirectory : (folder.view none).isDirectory (ofNames ["p".toList]) = true := by cbv
  rw [hdir, filesNamed, if_pos hdirectory] at hwalk
  obtain ⟨ms, hms, hp, hskipped, -⟩ := of_mem_modulesBelow isProper_folder (by decide) hwalk
  -- the way from the folder to the file leads through one that is skipped
  rw [hfile] at hp
  have hway : ["p".toList, "node_modules".toList, "x.ts".toList] = ["p".toList] ++ ms := by
    refine Path.eq_of_components_ofNames (by decide) ?_ (congrArg Path.components hp)
    exact Path.areNames_append.mpr ⟨by decide, hms⟩
  cases List.append_cancel_left (show ["p".toList] ++ _ = _ from hway)
  exact hskipped "node_modules".toList (by decide) (by decide)

end ImportLint
