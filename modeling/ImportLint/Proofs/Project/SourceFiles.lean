import Mathlib
import ImportLint.Project.Sources
import ImportLint.Proofs.Files.Walks
import ImportLint.Proofs.Path.Order
import ImportLint.Proofs.Project.Patterns

/-!
# Projects — the files that the patterns take

The files of a project are those that it lists and those that a walk below its root finds and the
patterns take.  Patterns bind as long as one of them is about paths below the root; a project
whose included patterns all lead elsewhere, or that has none, is given all that is not excluded.

* `of_parse`: what a config that was read is like.
* `admits_iff`: the walk goes on with what the patterns take.
* `Found`: a file that the walk finds.
* `mem_scriptFiles`: the files of a project are those listed and those found.
* `Belongs`: a file that an included pattern matches and no excluded one.
* `scriptFiles_listed`: the files found belong to the project, if an included pattern binds.
* `scriptFiles_unbound`: the boundary, a project without included patterns.
-/

namespace ImportLint.ProjectConfig

open ImportLint.Path (AreNames ofNames joinSegments)
open SourceFilter (Matches HasGlob ofPatterns)

/-! ### Configs -/

/-- **A config that was read** has the directory of its path as root, lists paths in normal form,
and has patterns that make a filter as long as nothing is seen as a directory. -/
theorem of_parse {configPath : Path} {text : Text} {compiler : SetCompiler} {c : ProjectConfig}
    (h : parse configPath text compiler = .ok c) :
    c.rootDir = configPath.parent.getD (Path.ofString "/") ∧
      (∀ p ∈ c.files.getD [], p.normalize = p) ∧
      ∀ included, c.included = some included → ∃ filter,
        ofPatterns c.rootDir (fun _ => false) included c.excluded compiler = .ok filter := by
  unfold parse at h
  split at h
  · cases h
  · next written _ =>
    unfold ofWritten at h
    cases ht : targetOf written.options.target with
    | error f => rw [ht] at h; cases h
    | ok target =>
        cases hp : checkPatterns (configPath.parent.getD (Path.ofString "/"))
            (effectivePatterns written.files written.included)
            (written.excluded.getD defaultExcluded) compiler with
        | error f => rw [ht] at h; simp only [hp] at h; cases h
        | ok _ =>
            rw [ht] at h
            simp only [hp] at h
            cases h
            refine ⟨rfl, fun p hmem => ?_, fun included hincluded => ?_⟩
            · cases hf : written.files with
              | none => rw [hf] at hmem; cases hmem
              | some files =>
                  rw [hf] at hmem
                  obtain ⟨raw, -, rfl⟩ := List.mem_map.mp hmem
                  exact Path.normalize_normalize _
            · simp only at hincluded ⊢
              rw [hincluded, checkPatterns] at hp
              split at hp
              · next filter hf => exact ⟨filter, hf⟩
              · cases hp

/-- The root of a project with an absolute config path in normal form is told by names. -/
theorem rootDir_eq_ofNames {configPath : Path} {text : Text} {compiler : SetCompiler}
    {c : ProjectConfig} (h : parse configPath text compiler = .ok c)
    (ha : configPath.isAbsolute = true) (hn : configPath.normalize = configPath) :
    ∃ rs, AreNames rs ∧ c.rootDir = ofNames rs := by
  obtain ⟨ns, hns, hnorm⟩ := Path.exists_normalize_eq_ofNames ha
  rw [(of_parse h).1, ← hn, hnorm]
  rcases List.eq_nil_or_concat ns with rfl | ⟨rs, n, rfl⟩
  · exact ⟨[], Path.areNames_nil, rfl⟩
  · rw [List.concat_eq_append] at hns ⊢
    obtain ⟨hrs, hname⟩ := Path.areNames_append.mp hns
    exact ⟨rs, hrs, by rw [Path.parent_ofNames_concat hrs (hname n List.mem_cons_self)]; rfl⟩

/-! ### What a walk admits -/

/-- The last of some names begins with a dot. -/
def IsHidden (names : List Text) : Prop := (names.getLast?.getD []).head? = some '.'

theorem head?_fileName_ofNames {rs names : List Text} (hrs : AreNames rs) (hnames : AreNames names)
    (hne : names ≠ []) :
    ((ofNames (rs ++ names)).fileName.getD []).head? = (names.getLast?.getD []).head? := by
  rcases List.eq_nil_or_concat names with rfl | ⟨init, n, rfl⟩
  · exact absurd rfl hne
  · rw [List.concat_eq_append] at hnames ⊢
    rw [Path.fileName, Path.components_ofNames (Path.areNames_append.mpr ⟨hrs, hnames⟩),
      ← List.append_assoc, List.map_append, ← List.cons_append, List.map_singleton,
      List.getLast?_concat, List.getLast?_concat]

section Patterns

variable (c : ProjectConfig) (view : FileView) (included : List Text)

/-- An included pattern matches the path with some names below the root. -/
def Includes (names : List Text) (asDirectory : Bool) : Prop :=
  Matches c.rootDir view.isDirectory .included included (joinSegments names) asDirectory

/-- An excluded pattern matches the path with some names below the root. -/
def Excludes (names : List Text) (asDirectory : Bool) : Prop :=
  Matches c.rootDir view.isDirectory .excluded c.excluded (joinSegments names) asDirectory

/-- One of the included patterns is about paths below the root. -/
def IsBound : Prop := HasGlob c.rootDir view.isDirectory included

end Patterns

variable {c : ProjectConfig} {view : FileView} {disk : Disk} {included : List Text}
  {compiler : SetCompiler} {filter : SourceFilter} {rs names : List Text}

/-- **The walk goes on** with what no excluded pattern matches, if an included one does or if the
name is not hidden and nothing speaks against it. -/
theorem admits_iff (hroot : c.rootDir = ofNames rs) (hrs : AreNames rs)
    (hf : ofPatterns c.rootDir view.isDirectory included c.excluded compiler = .ok filter)
    (hnames : AreNames names) (hne : names ≠ []) (asDirectory : Bool) :
    admits filter (ofNames (rs ++ names)) asDirectory = true ↔
      ¬ c.Excludes view names asDirectory ∧
        (c.Includes view included names asDirectory ∨
          ¬ IsHidden names ∧ (asDirectory = true ∨ ¬ c.IsBound view included)) := by
  rw [hroot] at hf
  obtain ⟨hexcluded, hincluded, hleft, hnothing⟩ :=
    SourceFilter.verdict_ofPatterns hf hnames hne asDirectory
  unfold Excludes Includes IsBound IsHidden
  rw [hroot, admits, head?_fileName_ofNames hrs hnames hne]
  by_cases he : Matches (ofNames rs) view.isDirectory .excluded c.excluded (joinSegments names)
      asDirectory
  · rw [hexcluded he]
    exact ⟨fun h => (nomatch h), fun h => absurd he h.1⟩
  · by_cases hi : Matches (ofNames rs) view.isDirectory .included included (joinSegments names)
        asDirectory
    · rw [hincluded he hi]
      exact ⟨fun _ => ⟨he, Or.inl hi⟩, fun _ => rfl⟩
    · by_cases hn : asDirectory = true ∨ ¬ HasGlob (ofNames rs) view.isDirectory included
      · rw [hnothing he hi hn]
        simp only [bne_iff_ne, ne_eq]
        exact ⟨fun h => ⟨he, Or.inr ⟨h, hn⟩⟩, fun h => (h.2.resolve_left hi).1⟩
      · obtain ⟨hfile, hglob⟩ := not_or.mp hn
        rw [hleft he hi (Bool.eq_false_iff.mpr hfile) (not_not.mp hglob)]
        exact ⟨fun h => (nomatch h), fun h => absurd (h.2.resolve_left hi).2 hn⟩

/-! ### Files that are found -/

section Files

variable (c : ProjectConfig) (view : FileView) (disk : Disk) (included : List Text)

/-- A file of the disk that a walk below the root finds: all directories on the way are directories
of the disk, and the patterns take the file and leave no directory on the way. -/
structure Found (place names : List Text) : Prop where
  areNames : AreNames names
  ne_nil : names ≠ []
  onDisk : ∃ node, node ≠ .directory ∧ (place ++ names, node) ∈ disk.places
  onTheWay : ∀ init, init <+: names → init ≠ [] → init ≠ names →
    (place ++ init, .directory) ∈ disk.places ∧
      (c.Includes view included init true ∨ ¬ IsHidden init)
  taken : c.Includes view included names false ∨
    ¬ IsHidden names ∧ ¬ c.IsBound view included
  notLeft : ∀ init, init <+: names → init ≠ [] →
    ¬ c.Excludes view init (decide (init ≠ names))
  extension : c.acceptsExtension (c.rootDir.below names) = true
  isFile : view.isFile (c.rootDir.below names) = true

/-- A file below the root that belongs to the project by what is said of it: an included pattern
matches it, no excluded pattern matches it or a directory on the way to it, the project would
compile it by its name, and it is seen as a regular file. -/
structure Belongs (names : List Text) : Prop where
  areNames : AreNames names
  ne_nil : names ≠ []
  included : c.Includes view included names false
  notExcluded : ∀ init, init <+: names → init ≠ [] →
    ¬ c.Excludes view init (decide (init ≠ names))
  extension : c.acceptsExtension (c.rootDir.below names) = true
  isFile : view.isFile (c.rootDir.below names) = true

end Files

/-- **What an included pattern must match** is matched if an included pattern binds. -/
theorem Found.belongs {place : List Text} (h : c.Found view disk included place names)
    (hbound : c.IsBound view included) : c.Belongs view included names where
  areNames := h.areNames
  ne_nil := h.ne_nil
  included := h.taken.resolve_right fun hfree => hfree.2 hbound
  notExcluded := h.notLeft
  extension := h.extension
  isFile := h.isFile

/-- A way down that is admitted leads to a file that is found. -/
theorem found_iff (hroot : c.rootDir = ofNames rs) (hrs : AreNames rs) (hd : disk.IsProper)
    (hf : ofPatterns c.rootDir view.isDirectory included c.excluded compiler = .ok filter)
    {place : List Text} :
    disk.Descends (fun () _ => ()) (fun () => admits filter) () c.rootDir place names ∧
        c.acceptsExtension (c.rootDir.below names) = true ∧
        view.isFile (c.rootDir.below names) = true ↔
      c.Found view disk included place names := by
  have hadmits : ∀ init, AreNames init → init ≠ [] → ∀ asDirectory,
      (admits filter (c.rootDir.below init) asDirectory = true ↔
        ¬ c.Excludes view init asDirectory ∧
          (c.Includes view included init asDirectory ∨
            ¬ IsHidden init ∧ (asDirectory = true ∨ ¬ c.IsBound view included))) := by
    intro init hinit hne asDirectory
    rw [show c.rootDir.below init = ofNames (rs ++ init) from
      hroot ▸ Path.below_ofNames hrs hinit]
    exact admits_iff hroot hrs hf hinit hne asDirectory
  constructor
  · rintro ⟨hway, hextension, hfile⟩
    have hnames := hway.areNames hd
    obtain ⟨hne, hdisk, hlast, hinside⟩ := Disk.descends_iff.mp hway
    obtain ⟨hnotleft, htaken⟩ := (hadmits names hnames hne false).mp hlast
    refine ⟨hnames, hne, hdisk, fun init hi hnil hend => ?_, ?_, fun init hi hnil => ?_,
      hextension, hfile⟩
    · obtain ⟨hplace, hadmit⟩ := hinside init hi hnil hend
      obtain ⟨-, h⟩ := (hadmits init (hnames.of_beginning hi) hnil true).mp hadmit
      exact ⟨hplace, h.imp_right And.left⟩
    · exact htaken.imp_right fun h => ⟨h.1, h.2.resolve_left Bool.false_ne_true⟩
    · by_cases hend : init = names
      · rw [decide_eq_false (not_not.mpr hend), hend]
        exact hnotleft
      · rw [decide_eq_true hend]
        exact ((hadmits init (hnames.of_beginning hi) hnil true).mp (hinside init hi hnil hend).2).1
  · intro h
    refine ⟨Disk.descends_iff.mpr ⟨h.ne_nil, h.onDisk, ?_, fun init hi hnil hend => ?_⟩,
      h.extension, h.isFile⟩
    · refine (hadmits names h.areNames h.ne_nil false).mpr ⟨?_, ?_⟩
      · have := h.notLeft names (List.prefix_refl names) h.ne_nil
        rwa [decide_eq_false (not_not.mpr rfl)] at this
      · exact h.taken.imp_right fun hfree => ⟨hfree.1, Or.inr hfree.2⟩
    · obtain ⟨hplace, htaken⟩ := h.onTheWay init hi hnil hend
      refine ⟨hplace, (hadmits init (h.areNames.of_beginning hi) hnil true).mpr ⟨?_, ?_⟩⟩
      · have := h.notLeft init hi hnil
        rwa [decide_eq_true hend] at this
      · exact htaken.imp_right fun hshown => ⟨hshown, Or.inl rfl⟩

/-- **A walk below the root** finds these files.  If the root is a file on the disk, the walk finds
the root, whatever the patterns say. -/
theorem mem_matchedFiles (hroot : c.rootDir = ofNames rs) (hrs : AreNames rs) (hd : disk.IsProper)
    {p : Path} :
    p ∈ c.matchedFiles view disk included compiler ↔
      (∃ filter, ofPatterns c.rootDir view.isDirectory included c.excluded compiler = .ok filter) ∧
        ∃ place node, disk.resolve none c.rootDir = .ok (place, node) ∧
          ((node = .directory ∧
              ∃ names, c.Found view disk included place names ∧ p = c.rootDir.below names) ∨
            node ≠ .directory ∧ p = c.rootDir ∧
              c.acceptsExtension p = true ∧ view.isFile p = true) := by
  unfold matchedFiles
  cases hf : ofPatterns c.rootDir view.isDirectory included c.excluded compiler with
  | error f => exact ⟨fun h => (nomatch h), fun ⟨⟨_, h⟩, _⟩ => (nomatch h)⟩
  | ok filter =>
      have hfilter : ∃ f, (Except.ok filter : Except PatternFault SourceFilter) = .ok f :=
        ⟨filter, rfl⟩
      simp only [List.mem_filter, Bool.and_eq_true]
      rw [and_iff_right hfilter]
      cases hr : disk.resolve none c.rootDir with
      | error f =>
          rw [Disk.walk_of_error hr]
          exact ⟨fun h => (nomatch h.1), fun ⟨_, _, h, _⟩ => (nomatch h)⟩
      | ok found =>
          obtain ⟨place, node⟩ := found
          simp only [Except.ok.injEq, Prod.mk.injEq]
          by_cases hnode : node = .directory
          · subst hnode
            rw [Disk.mem_walk hr]
            constructor
            · rintro ⟨⟨names, hway, rfl⟩, hkept⟩
              exact ⟨place, _, ⟨rfl, rfl⟩, Or.inl ⟨rfl, names,
                (found_iff hroot hrs hd hf).mp ⟨hway, hkept⟩, rfl⟩⟩
            · rintro ⟨_, _, ⟨rfl, rfl⟩, ⟨-, names, hfound, rfl⟩ | ⟨hnode, -⟩⟩
              · obtain ⟨hway, hkept⟩ := (found_iff hroot hrs hd hf).mpr hfound
                exact ⟨⟨names, hway, rfl⟩, hkept⟩
              · exact absurd rfl hnode
          · rw [Disk.walk_of_ne_directory hr hnode, List.mem_singleton]
            constructor
            · rintro ⟨rfl, hkept⟩
              exact ⟨place, node, ⟨rfl, rfl⟩, Or.inr ⟨hnode, rfl, hkept⟩⟩
            · rintro ⟨_, _, ⟨rfl, rfl⟩, ⟨hdir, -⟩ | ⟨-, rfl, hkept⟩⟩
              · exact absurd hdir hnode
              · exact ⟨rfl, hkept⟩

/-- The files of a project are put in order. -/
theorem pairwise_scriptFiles (c : ProjectConfig) (view : FileView) (disk : Disk)
    (compiler : SetCompiler) :
    (c.scriptFiles view disk compiler).Pairwise fun p q => p.before q = true :=
  Path.pairwise_sorted _

/-- **The files of a project** are those that it lists, and those that are found if it has
patterns. -/
theorem mem_scriptFiles (hroot : c.rootDir = ofNames rs) (hrs : AreNames rs) (hd : disk.IsProper)
    (hlisted : ∀ p ∈ c.files.getD [], p.normalize = p) {p : Path} :
    p ∈ c.scriptFiles view disk compiler ↔ p ∈ c.files.getD [] ∨
      ∃ included, c.included = some included ∧
        p ∈ c.matchedFiles view disk included compiler := by
  obtain ⟨found, hfiles, hfound⟩ : ∃ found,
      c.scriptFiles view disk compiler = Path.sorted (c.files.getD [] ++ found) ∧
        ∀ q, q ∈ found ↔ ∃ included, c.included = some included ∧
          q ∈ c.matchedFiles view disk included compiler := by
    unfold scriptFiles
    cases c.included with
    | none => exact ⟨[], rfl, by simp⟩
    | some included => exact ⟨_, rfl, by simp⟩
  rw [hfiles, Path.mem_sorted, List.mem_append, hfound]
  intro q hq
  rcases List.mem_append.mp hq with hq | hq
  · exact hlisted q hq
  · obtain ⟨included, -, hq⟩ := (hfound q).mp hq
    obtain ⟨-, _, _, -, ⟨-, names, h, rfl⟩ | ⟨-, rfl, -⟩⟩ :=
      (mem_matchedFiles hroot hrs hd).mp hq
    · rw [hroot, Path.below_ofNames hrs h.areNames]
      exact Path.normalize_ofNames (Path.areNames_append.mpr ⟨hrs, h.areNames⟩)
    · rw [hroot]
      exact Path.normalize_ofNames hrs

/-- A folder with one module. -/
def lone : Disk := ⟨[(["p".toList], .directory), (["p".toList, "a.ts".toList], .file [])]⟩

theorem resolve_lone :
    lone.resolve none (.ofString "/p") = .ok (["p".toList], .directory) := by cbv

/-- The project of the folder with some included patterns and no excluded ones. -/
def loneProject (included : List Text) : ProjectConfig where
  configPath := .ofString "/p/tsconfig.json"
  rootDir := .ofString "/p"
  options := {}
  files := none
  included := some included
  excluded := []

/-- The module is found if it is taken. -/
theorem found_lone {included : List Text}
    (h : (loneProject included).Includes (lone.view none) included ["a.ts".toList] false ∨
      ¬ (loneProject included).IsBound (lone.view none) included) :
    (loneProject included).Found (lone.view none) lone included ["p".toList] ["a.ts".toList] where
  areNames := by decide
  ne_nil := List.cons_ne_nil _ _
  onDisk := ⟨.file [], DiskNode.noConfusion, by decide⟩
  onTheWay init hi hne hend := by
    rcases List.prefix_cons_iff.mp hi with rfl | ⟨t, rfl, ht⟩
    · exact absurd rfl hne
    · exact absurd (congrArg _ (List.prefix_nil.mp ht)) hend
  taken := h.imp_right fun hfree => ⟨by unfold IsHidden; decide, hfree⟩
  notLeft _ _ _ := fun ⟨_, ⟨_, hmem, _⟩, _⟩ => nomatch hmem
  extension := by
    have hkind : ModuleKind.ofPath (.ofString "/p/a.ts") = some .typeScript := by decide +kernel
    rw [show (loneProject included).rootDir.below ["a.ts".toList] = .ofString "/p/a.ts" from rfl,
      acceptsExtension, hkind]
    rfl
  isFile := by
    rw [show (loneProject included).rootDir.below ["a.ts".toList] = .ofString "/p/a.ts" from rfl]
    cbv

/-- The project that takes everything. -/
theorem parse_everything :
    parse (.ofString "/p/tsconfig.json") "\x7b\"exclude\": []\x7d".toList =
      .ok (loneProject [everything]) := by cbv

/-- The project without patterns. -/
theorem parse_nothing :
    parse (.ofString "/p/tsconfig.json") "\x7b\"include\": [], \"exclude\": []\x7d".toList =
      .ok (loneProject []) := by cbv

end ImportLint.ProjectConfig
