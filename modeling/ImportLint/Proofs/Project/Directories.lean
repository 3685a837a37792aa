import ImportLint.Proofs.Glob.Covering
import ImportLint.Proofs.Project.Expansion
import ImportLint.Proofs.Project.SourceFiles
import ImportLint.Proofs.Project.Spellings

/-!
# Projects — the files below a named directory

An included pattern that names a directory stands for all that is below it.  The text of the
pattern becomes the beginning of a glob, so this holds for a directory that is told by its names
alone: a segment `.` or `..` is no name of a file, and braces and backslashes mean something else
in a glob.

* `covers_names_iff`: which paths the glob of a directory covers.
* `NamesDirectory`: a pattern that names a directory by its names.
* `matches_below`: such a pattern takes all that is below the directory.
* `scriptFiles_below_directory`: so all files below it are files of the project.
* `scriptFiles_dot`: the boundary, a project that includes `.`.
-/

namespace ImportLint

open Glob (isPlain belowTokens)
open ImportLint.Path (AreNames ofNames joinSegments segments)

/-! ### The glob of a directory -/

/-- **The glob of a directory** covers the paths of names that go on behind its segments as they
are written. -/
theorem Glob.covers_names_iff {t : Text} {names : List Text} (hnames : AreNames names)
    (hne : names ≠ []) :
    covers (t.map .literal ++ belowTokens) (joinSegments names) = true ↔
      ∃ rest, rest ≠ [] ∧ names = segments t ++ rest := by
  rw [covers_directory_iff]
  constructor
  · rintro ⟨u, hu⟩
    refine ⟨segments u, Path.segments_ne_nil u, ?_⟩
    rw [← Path.segments_append_slash, ← hu,
      Path.segments_joinSegments hne fun s hs => (hnames s hs).2]
  · rintro ⟨rest, hrest, rfl⟩
    refine ⟨joinSegments rest, ?_⟩
    rw [Path.joinSegments_append (Path.segments_ne_nil t) hrest, Path.joinSegments_segments]

/-- The rule of a line for all that is below a text without special characters. -/
theorem GlobRule.ofLine_directory {policy : Glob.OpenClass} (isNegated : Bool) {t : Text}
    (ht : ∀ c ∈ t, isPlain c = true) :
    ofLine policy (signOf isNegated ++ '/' :: (t ++ '/' :: everything)) =
      .ok (some ⟨t.map .literal ++ belowTokens, isNegated, false⟩) := by
  rw [ofLine_everything, Glob.parse_directory ht]

/-! ### Patterns that name a directory -/

/-- A pattern names a directory below the root by the names that lead to it.  None of them has a
character that is special in a glob, and a directory is seen there. -/
structure NamesDirectory (root : Path) (isDirectory : Path → Bool) (pattern : Text)
    (ds : List Text) : Prop where
  areNames : AreNames ds
  spells : Spells root ds (Text.trim pattern)
  plain : ∀ c ∈ joinSegments ds, isPlain c = true
  closing : ']' ∉ joinSegments ds
  seen : isDirectory (root.below ds) = true

theorem NamesDirectory.hasWildcard_eq_false {root : Path} {isDirectory : Path → Bool}
    {pattern : Text} {ds : List Text} (h : NamesDirectory root isDirectory pattern ds) :
    hasWildcard (joinSegments ds) = false := by
  refine List.any_eq_false.mpr fun c hc hspecial => ?_
  have hplain := h.plain c hc
  simp only [Bool.or_eq_true, beq_iff_eq, or_assoc] at hspecial
  rcases hspecial with rfl | rfl | rfl | rfl
  · cases hplain
  · cases hplain
  · cases hplain
  · exact h.closing hc

namespace SourceFilter

variable {rs ds : List Text} {isDirectory : Path → Bool} {pattern : Text}

/-- The pattern is expanded. -/
theorem anchor_of_names (hrs : AreNames rs)
    (h : NamesDirectory (ofNames rs) isDirectory pattern ds) :
    anchor (ofNames rs) isDirectory pattern =
      some (if ds = [] then '/' :: everything
        else '/' :: (joinSegments ds ++ '/' :: everything)) := by
  obtain ⟨t, ht, hdrop⟩ := relativePattern_of_spells hrs h.areNames h.spells
  unfold anchor
  rw [ht]
  simp only [Option.map_some, hdrop]
  by_cases hds : ds = []
  · subst hds
    rfl
  · have hempty : (joinSegments ds).isEmpty = false :=
      List.isEmpty_eq_false_iff.mpr (Path.joinSegments_ne_nil h.areNames hds)
    have hseen : isDirectory ((ofNames rs).join ⟨joinSegments ds⟩) = true := by
      rw [Path.join_joinSegments hrs h.areNames hds, ← Path.below_ofNames hrs h.areNames]
      exact h.seen
    simp only [hempty, h.hasWildcard_eq_false, hseen, Bool.false_eq_true, if_false,
      Bool.not_false, Bool.and_true, if_true, if_neg hds]
    rfl

/-- **A pattern that names a directory** matches all that is below the directory. -/
theorem matches_below {patterns : List Text} (hrs : AreNames rs) (hpattern : pattern ∈ patterns)
    (h : NamesDirectory (ofNames rs) isDirectory pattern ds) {rest : List Text}
    (hrest : AreNames rest) (hne : rest ≠ []) (asDirectory : Bool) :
    Matches (ofNames rs) isDirectory .included patterns (joinSegments (ds ++ rest))
      asDirectory := by
  have hanchor := anchor_of_names hrs h
  by_cases hds : ds = []
  · rw [if_pos hds] at hanchor
    have hrule : GlobRule.ofLine .refused ('/' :: everything) =
        .ok (some ⟨[.leadingDirectories, .anyRun], false, false⟩) := by cbv
    exact ⟨_, ⟨pattern, hpattern, _, hanchor, hrule⟩, fun h => absurd h Bool.false_ne_true,
      Glob.covers_leading _⟩
  · rw [if_neg hds] at hanchor
    have hrule : GlobRule.ofLine .refused ('/' :: (joinSegments ds ++ '/' :: everything)) = _ :=
      GlobRule.ofLine_directory false h.plain
    refine ⟨_, ⟨pattern, hpattern, _, hanchor, hrule⟩, fun h => absurd h Bool.false_ne_true, ?_⟩
    have hall : AreNames (ds ++ rest) := Path.areNames_append.mpr ⟨h.areNames, hrest⟩
    refine (Glob.covers_names_iff hall (List.append_ne_nil_of_right_ne_nil ds hne)).mpr
      ⟨rest, hne, ?_⟩
    rw [Path.segments_joinSegments hds fun s hs => (h.areNames s hs).2]

end SourceFilter

/-! ### Files below a directory -/

/-- A file of a disk that is reached from a place through directories. -/
structure Disk.HoldsFile (d : Disk) (place names : List Text) : Prop where
  node : ∃ node, node ≠ .directory ∧ (place ++ names, node) ∈ d.places
  onTheWay : ∀ init, init <+: names → init ≠ [] → init ≠ names →
    (place ++ init, .directory) ∈ d.places

namespace ProjectConfig

open SourceFilter (allRules)

variable {c : ProjectConfig} {view : FileView} {disk : Disk} {included : List Text}
  {compiler : SetCompiler}

/-- **The patterns of a config that was read** have rules whatever is seen as a directory. -/
theorem exists_allRules {configPath : Path} {text : Text}
    (h : parse configPath text compiler = .ok c) (hincluded : c.included = some included)
    (isDirectory : Path → Bool) :
    ∃ rules, allRules c.rootDir isDirectory included c.excluded = .ok rules := by
  obtain ⟨-, -, hpatterns⟩ := of_parse h
  obtain ⟨_, hfilter⟩ := hpatterns included hincluded
  obtain ⟨_, hrules, -⟩ := SourceFilter.ofPatterns_eq_ok_iff.mp hfilter
  exact SourceFilter.allRules_expands hrules isDirectory

/-- **All files below a directory that is included by its names** are files of the project, for
every config that can be read, every compiler of its patterns, every disk and every view of the
files.

* The compiler does not refuse the rules of the patterns as the view sees them.
* The pattern can be written with `./` in front and slashes behind, or in full; `ds` are the names
  of the directory.
* The walk must come to the directory: none of its names is hidden unless it is included as well.
  What is hidden below the directory is included with it.
* No excluded pattern matches the file or a directory on the way to it, its name is one that the
  project would compile, and it is seen as a regular file. -/
theorem scriptFiles_below_directory {configPath : Path} {text : Text}
    (hparse : parse configPath text compiler = .ok c) (ha : configPath.isAbsolute = true)
    (hn : configPath.normalize = configPath) (hd : disk.IsProper)
    (hincluded : c.included = some included)
    (hcompiles : ∀ rules, allRules c.rootDir view.isDirectory included c.excluded = .ok rules →
      compiler.refusal rules = none) {pattern : Text} (hpattern : pattern ∈ included)
    {ds : List Text} (hds : NamesDirectory c.rootDir view.isDirectory pattern ds)
    {place : List Text} (hplace : disk.resolve none c.rootDir = .ok (place, .directory))
    (hshown : ∀ init, init <+: ds → init ≠ [] →
      c.Includes view included init true ∨ ¬ IsHidden init)
    {rest : List Text} (hrest : rest ≠ []) (hfile : disk.HoldsFile place (ds ++ rest))
    (hexcluded : ∀ init, init <+: ds ++ rest → init ≠ [] →
      ¬ c.Excludes view init (decide (init ≠ ds ++ rest)))
    (hextension : c.acceptsExtension (c.rootDir.below (ds ++ rest)) = true)
    (hseen : view.isFile (c.rootDir.below (ds ++ rest)) = true) :
    c.rootDir.below (ds ++ rest) ∈ c.scriptFiles view disk compiler := by
  obtain ⟨rs, hrs, hroot⟩ := rootDir_eq_ofNames hparse ha hn
  obtain ⟨-, hlisted, -⟩ := of_parse hparse
  have hnames : AreNames (ds ++ rest) := by
    obtain ⟨node, -, hnode⟩ := hfile.node
    exact (Path.areNames_append.mp (hd _ hnode)).2
  have hbelow : ∀ more, AreNames more → more ≠ [] → ∀ asDirectory,
      c.Includes view included (ds ++ more) asDirectory := by
    intro more hmore hne asDirectory
    unfold Includes
    rw [hroot] at hds ⊢
    exact SourceFilter.matches_below hrs hpattern hds hmore hne asDirectory
  -- what is on the way is a beginning of the directory's names, or lies below the directory
  have hway : ∀ init, init <+: ds ++ rest → init ≠ [] →
      c.Includes view included init true ∨ ¬ IsHidden init := by
    intro init hinit hne
    rcases List.prefix_or_prefix_of_prefix hinit (List.prefix_append ds rest) with h | ⟨more, rfl⟩
    · exact hshown init h hne
    · by_cases hmore : more = []
      · subst hmore
        exact hshown _ (by rw [List.append_nil]) hne
      · have hinames := hnames.of_beginning hinit
        exact Or.inl (hbelow more (Path.areNames_append.mp hinames).2 hmore true)
  have hfound : c.Found view disk included place (ds ++ rest) :=
    { areNames := hnames
      ne_nil := List.append_ne_nil_of_right_ne_nil ds hrest
      onDisk := hfile.node
      onTheWay := fun init hi hne hend => ⟨hfile.onTheWay init hi hne hend, hway init hi hne⟩
      taken := Or.inl (hbelow rest (Path.areNames_append.mp hnames).2 hrest false)
      notLeft := hexcluded
      extension := hextension
      isFile := hseen }
  obtain ⟨rules, hrules⟩ := exists_allRules hparse hincluded view.isDirectory
  have hfilter := SourceFilter.ofPatterns_eq_ok_iff.mpr ⟨rules, hrules, hcompiles rules hrules, rfl⟩
  refine (mem_scriptFiles hroot hrs hd hlisted).mpr (Or.inr ⟨included, hincluded, ?_⟩)
  exact (mem_matchedFiles hroot hrs hd).mpr ⟨⟨_, hfilter⟩,
    place, .directory, hplace, Or.inl ⟨rfl, ds ++ rest, hfound, rfl⟩⟩

/-! ### Projects with a folder -/

theorem holdsFile_lone : lone.HoldsFile ["p".toList] ["a.ts".toList] where
  node := ⟨.file [], DiskNode.noConfusion, by decide⟩
  onTheWay init hinit hne hend := by
    rcases List.prefix_cons_iff.mp hinit with rfl | ⟨t, rfl, ht⟩
    · exact absurd rfl hne
    · exact absurd (congrArg _ (List.prefix_nil.mp ht)) hend

/-- A folder with a module in another folder. -/
def nested : Disk := ⟨[(["p".toList], .directory), (["p".toList, "src".toList], .directory),
  (["p".toList, "src".toList, "a.ts".toList], .file [])]⟩

theorem resolve_nested :
    nested.resolve none (.ofString "/p") = .ok (["p".toList], .directory) := by cbv

theorem holdsFile_nested : nested.HoldsFile ["p".toList] ["src".toList, "a.ts".toList] where
  node := ⟨.file [], DiskNode.noConfusion, by decide⟩
  onTheWay init hinit hne hend := by
    rcases List.prefix_cons_iff.mp hinit with rfl | ⟨t, rfl, ht⟩
    · exact absurd rfl hne
    · rcases List.prefix_cons_iff.mp ht with rfl | ⟨u, rfl, hu⟩
      · decide
      · exact absurd (by rw [List.prefix_nil.mp hu]) hend

/-- The project that includes the inner folder. -/
theorem parse_inner :
    parse (.ofString "/p/tsconfig.json")
        "\x7b\"include\": [\"./src/\"], \"exclude\": []\x7d".toList =
      .ok (loneProject ["./src/".toList]) := by cbv

theorem namesDirectory_inner :
    NamesDirectory (.ofString "/p") (nested.view none).isDirectory "./src/".toList
      ["src".toList] where
  areNames := by decide
  spells := .fromRoot [['.']] [[]] (by decide) (by decide) (by decide) (by decide +kernel)
    (by decide +kernel)
  plain := List.all_eq_true.mp (by cbv)
  closing := by decide +kernel
  seen := by cbv

/-- The inner folder is expanded to one rule. -/
theorem allRules_inner :
    allRules (.ofString "/p") (nested.view none).isDirectory ["./src/".toList] [] =
      .ok [⟨"src".toList.map .literal ++ belowTokens, false, false⟩] := by cbv

/-- A project that includes the inner folder has the module. -/
theorem scriptFiles_nested :
    let text := "\x7b\"include\": [\"./src/\"], \"exclude\": []\x7d".toList
    let c := loneProject ["./src/".toList]
    let view := nested.view none
    parse (.ofString "/p/tsconfig.json") text = .ok c ∧
      (Path.ofString "/p/tsconfig.json").isAbsolute = true ∧
      (Path.ofString "/p/tsconfig.json").normalize = .ofString "/p/tsconfig.json" ∧
      nested.IsProper ∧
      NamesDirectory c.rootDir view.isDirectory "./src/".toList ["src".toList] ∧
      nested.HoldsFile ["p".toList] ["src".toList, "a.ts".toList] ∧
      Path.ofString "/p/src/a.ts" ∈ c.scriptFiles view nested := by
  intro text c view
  have hproper : nested.IsProper := by decide
  have hpath : c.rootDir.below (["src".toList] ++ ["a.ts".toList]) = .ofString "/p/src/a.ts" := rfl
  refine ⟨parse_inner, rfl, by decide, hproper, namesDirectory_inner, holdsFile_nested, ?_⟩
  refine scriptFiles_below_directory parse_inner rfl (by decide) hproper rfl
    (fun rules hrules => ?_) List.mem_cons_self namesDirectory_inner
    resolve_nested (fun init hinit hne => Or.inr ?_)
    (List.cons_ne_nil "a.ts".toList []) holdsFile_nested ?_ ?_ ?_
  · cases allRules_inner.symm.trans hrules
    decide +kernel
  · rcases List.prefix_cons_iff.mp hinit with rfl | ⟨t, rfl, ht⟩
    · exact absurd rfl hne
    · rw [List.prefix_nil.mp ht]
      unfold IsHidden
      decide
  · exact fun _ _ _ ⟨_, ⟨_, hmem, _⟩, _⟩ => nomatch hmem
  · have hkind : ModuleKind.ofPath (.ofString "/p/src/a.ts") = some .typeScript := by
      decide +kernel
    rw [hpath, acceptsExtension, hkind]
    rfl
  · rw [hpath]
    cbv

/-- The project that includes the folder as `.`. -/
theorem parse_dot :
    parse (.ofString "/p/tsconfig.json")
        "\x7b\"include\": [\".\"], \"exclude\": []\x7d".toList =
      .ok (loneProject [".".toList]) := by cbv

theorem anchor_dot :
    anchor (.ofString "/p") (lone.view none).isDirectory ".".toList =
      some ('/' :: (['.'] ++ '/' :: everything)) := by cbv

/-- **The boundary**: a project that includes `.` does not have the module in its folder, though
the pattern names the folder. -/
theorem scriptFiles_dot :
    let text := "\x7b\"include\": [\".\"], \"exclude\": []\x7d".toList
    let c := loneProject [".".toList]
    let view := lone.view none
    let named := c.rootDir.join (.ofString ".")
    parse (.ofString "/p/tsconfig.json") text = .ok c ∧
      hasWildcard ".".toList = false ∧ named.normalize = c.rootDir ∧
      view.isDirectory named = true ∧ lone.resolve none named = .ok (["p".toList], .directory) ∧
      c.excluded = [] ∧ lone.HoldsFile ["p".toList] ["a.ts".toList] ∧
      c.acceptsExtension (.ofString "/p/a.ts") = true ∧
      view.isFile (.ofString "/p/a.ts") = true ∧
      Path.ofString "/p/a.ts" ∉ c.scriptFiles view lone := by
  intro text c view named
  have hroot : c.rootDir = ofNames ["p".toList] := rfl
  have hproper : lone.IsProper := by decide
  have hkind : ModuleKind.ofPath (.ofString "/p/a.ts") = some .typeScript := by decide +kernel
  have hrule : GlobRule.ofLine .refused ('/' :: (['.'] ++ '/' :: everything)) = _ :=
    GlobRule.ofLine_directory false (List.forall_mem_singleton.mpr rfl)
  refine ⟨parse_dot, rfl, ?_, ?_, ?_, rfl, holdsFile_lone, ?_, ?_, fun hmem => ?_⟩
  · change (Path.join (.ofString "/p") (.ofString ".")).normalize = .ofString "/p"
    cbv
  · change (lone.view none).isDirectory (Path.join (.ofString "/p") (.ofString ".")) = true
    cbv
  · change lone.resolve none (Path.join (.ofString "/p") (.ofString ".")) = _
    cbv
  · rw [acceptsExtension, hkind]
    rfl
  · change (lone.view none).isFile (.ofString "/p/a.ts") = true
    cbv
  · obtain hmem | ⟨included, hincluded, hmem⟩ :=
      (mem_scriptFiles hroot (by decide) hproper fun _ h => absurd h List.not_mem_nil).mp hmem
    · cases hmem
    · cases hincluded
      obtain ⟨-, place, node, hr, ⟨-, names, hfound, -⟩ | ⟨hnode, -⟩⟩ :=
        (mem_matchedFiles hroot (by decide) hproper).mp hmem
      · have hbound : c.IsBound view [".".toList] := ⟨_, List.mem_cons_self, _, anchor_dot⟩
        obtain ⟨rule, ⟨pattern, hpattern, glob, hglob, hline⟩, -, hcovers⟩ :=
          hfound.taken.resolve_right fun hfree => hfree.2 hbound
        cases List.mem_singleton.mp hpattern
        cases anchor_dot.symm.trans hglob
        cases hrule.symm.trans hline
        -- a segment `.` is no name
        obtain ⟨rest, -, hrest⟩ :=
          (Glob.covers_names_iff hfound.areNames hfound.ne_nil).mp hcovers
        have hdot : Path.IsName ['.'] := hfound.areNames _ (hrest ▸ List.mem_cons_self)
        exact hdot.ne_dot rfl
      · cases resolve_lone.symm.trans hr
        exact hnode rfl

end ProjectConfig

end ImportLint
