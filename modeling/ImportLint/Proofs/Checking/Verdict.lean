import ImportLint.Proofs.Checking.Texts
import ImportLint.Proofs.Session.Memory

/-!
# Checking — what is found does not depend on what was checked before

While the files stay as they are, everything that a host or an engine remembers can be told from
the files.  So but for the report of a missing library, which is made once, the faults of a file
can be told from the files, too.

* `ImportCheck.verdict`: the faults of a file, told from the files alone.
* `ImportCheck.Faithful`: what a host and its engine remember is what the files are.
* `diagnostics_verdict`: a call finds the verdict, and what is remembered stays faithful.
-/

namespace ImportLint.ImportCheck

open Host (SameSettings)

variable {view : FileView} {origin h : Host} {s : State}

/-- Faults without the report of a missing library. -/
def withoutLibrary (ds : List Diagnostic) : List Diagnostic :=
  ds.filter fun d => d.code != missingLibraryCode

/-- The faults of a text, told from the files alone.  `origin` is a host without memories. -/
def verdictOfText (view : FileView) (origin : Host) (path : Path) (text : Text) :
    Except LintError (List Diagnostic) :=
  match ModuleKind.ofPath path with
  | none => .ok []
  | some kind =>
    let facts := SourceFacts.ofText kind text
    let errors := facts.problems.map fun p =>
      Diagnostic.located .error syntaxErrorCode p.message path p.start p.length
    let references := facts.references.filter isChecked
    ((references.map Reference.specifier).mapM fun specifier =>
        Host.outcome view origin (Host.directoryOf path) specifier).map fun found =>
      errors ++ (references.zip found).filterMap fun (r, m) =>
        faultOf origin.config.options path r m

/-- The faults of a file, told from the files alone, but for the report of a missing library. -/
def verdict (view : FileView) (origin : Host) (file : Path) : Except LintError (List Diagnostic) :=
  match sourceOf file (SnapshotTable.lookUp view file.normalize none).1 with
  | .error e => .error e
  | .ok (path, text) =>
    match (checkLibrary view origin {}).1 with
    | .error e => .error e
    | .ok _ => verdictOfText view origin path text

/-- What a host and its engine remember is what the files are, as seen from `origin`, a host
without memories. -/
structure Faithful (view : FileView) (origin h : Host) (s : State) : Prop where
  host : Host.Faithful view origin h
  settings : SameSettings origin h
  wellFormed : h.snapshots.WellFormed
  reliable : h.snapshots.Reliable view
  /-- The library has been looked for only if that does not fail. -/
  library : s.libraryChecked = true → (checkLibrary view origin {}).1.isOk = true

theorem faithful_new (view : FileView) (config : ProjectConfig) (projectRoot : Path)
    (globals : List Path) (libDir : Option Path) :
    Faithful view (.new view config projectRoot globals libDir)
      (.new view config projectRoot globals libDir) {} where
  host := Host.faithful_new view config projectRoot globals libDir
  settings := .refl _
  wellFormed := SnapshotTable.wellFormed_empty
  reliable := SnapshotTable.reliable_empty view
  library h := by cases h

/-- The snapshots change, but not what they stand for. -/
theorem Faithful.withSnapshots (hf : Faithful view origin h s) {t : SnapshotTable}
    (hw : t.WellFormed) (hr : t.Reliable view) :
    Faithful view origin { h with snapshots := t } s where
  host := { hf.host with }
  settings := ⟨hf.settings.config, hf.settings.libDir⟩
  wellFormed := hw
  reliable := hr
  library := hf.library

/-! ### The library -/

/-- Looking for the library fails as it would at first, or not at all; what it reports is no
part of the verdict. -/
theorem checkLibrary_faithful (hs : SameSettings origin h)
    (hl : s.libraryChecked = true → (checkLibrary view origin {}).1.isOk = true) :
    (∀ e, (checkLibrary view origin {}).1 = .error e → (checkLibrary view h s).1 = .error e) ∧
      (∀ library, (checkLibrary view origin {}).1 = .ok library →
        ∃ reported, (checkLibrary view h s).1 = .ok reported ∧ withoutLibrary reported = []) ∧
      ((checkLibrary view h s).2.libraryChecked = true →
        (checkLibrary view origin {}).1.isOk = true) := by
  obtain ⟨checked⟩ := s
  cases checked with
  | true =>
      have hok := hl rfl
      refine ⟨fun e he => ?_, fun _ _ => ⟨[], rfl, rfl⟩, fun _ => hok⟩
      rw [he] at hok
      cases hok
  | false =>
      have hsame : checkLibrary view h {} = checkLibrary view origin {} := by
        unfold checkLibrary
        rw [hs.defaultLibrary, hs.config]
      rw [hsame]
      refine ⟨fun e he => he, fun library hlib => ⟨library, hlib, ?_⟩, fun hc => ?_⟩
      · refine List.filter_eq_nil_iff.mpr fun d hd => ?_
        obtain ⟨lib, rfl⟩ := eq_missingLibrary_of_checkLibrary hlib hd
        change ¬ (missingLibraryCode != missingLibraryCode) = true
        decide
      · -- a look that fails leaves the state as it was
        revert hc
        unfold checkLibrary
        split
        · exact fun _ => rfl
        · split
          · exact fun _ => rfl
          · split
            · exact fun _ => rfl
            · split
              · exact fun hc => nomatch hc
              · exact fun _ => rfl
              · exact fun _ => rfl

/-! ### The text -/

/-- The faults of references depend on what is found, not on the entries that hold it. -/
theorem problems_eq (options : CompilerOptions) (path : Path) (references : List Reference)
    (found : List (Option (Shared ResolvedModule))) :
    problems options path (references.zip found) =
      (references.zip (found.map (Option.map Shared.value))).filterMap fun (r, m) =>
        faultOf options path r m := by
  rw [problems, List.zip_map_right, List.filterMap_map]
  rfl

/-- A text is checked as told from the files. -/
theorem checkText_verdict (hc : view.Coherent) (hf : Host.Faithful view origin h)
    (hs : SameSettings origin h) (path : Path) (text : Text) :
    ((checkText view path text).run h).1 = verdictOfText view origin path text ∧
      Host.Faithful view origin ((checkText view path text).run h).2 := by
  rw [checkText_run, verdictOfText]
  cases ModuleKind.ofPath path with
  | none => exact ⟨rfl, hf⟩
  | some kind =>
      simp only
      let specifiers := ((SourceFacts.ofText kind text).references.filter isChecked).map
        Reference.specifier
      obtain ⟨ha, hf'⟩ := Host.resolveAll_spec hc path specifiers hf
      have hs' := hs.trans (Host.sameSettings_resolveAll view path specifiers h)
      rw [← ha]
      generalize (Host.resolveAll view path specifiers).run h = run at hf' hs' ⊢
      obtain ⟨found, h'⟩ := run
      cases found with
      | error e => exact ⟨rfl, hf'⟩
      | ok found =>
          refine ⟨congrArg Except.ok ?_, hf'⟩
          rw [problems_eq, hs'.config]

/-- The faults of a text do not include the report of a missing library. -/
theorem withoutLibrary_of_checkText {path : Path} {text : Text} {ds : List Diagnostic}
    (hd : ((checkText view path text).run h).1 = .ok ds) : withoutLibrary ds = ds := by
  have hzero := (checkText_spec view path text h).2 ds hd
  refine List.filter_eq_self.mpr fun d hm => ?_
  have := List.countP_eq_zero.mp hzero d hm
  simpa using this

/-! ### One call -/

/-- What a call does with its text: it looks for the library, and checks the text. -/
theorem check_verdict (hc : view.Coherent) (hf : Faithful view origin h s) (path : Path)
    (text : Text) :
    let run : Except LintError (List Diagnostic) × Host × State :=
      match checkLibrary view h s with
      | (.error e, s') => (.error e, h, s')
      | (.ok library, s') =>
        (((checkText view path text).run h).1.map (library ++ ·),
          ((checkText view path text).run h).2, s')
    (run.1.map withoutLibrary =
        match (checkLibrary view origin {}).1 with
        | .error e => .error e
        | .ok _ => verdictOfText view origin path text) ∧
      Faithful view origin run.2.1 run.2.2 := by
  obtain ⟨herror, hok, hchecked⟩ := checkLibrary_faithful hf.settings hf.library
  obtain ⟨hverdict, hhost⟩ := checkText_verdict hc hf.host hf.settings path text
  have hsettings := hf.settings.trans (checkText_spec view path text h).1
  have hsnap := snapshots_checkText view path text h
  generalize checkLibrary view h s = looked at herror hok hchecked ⊢
  obtain ⟨reported, s'⟩ := looked
  cases ho : (checkLibrary view origin {}).1 with
  | error e =>
      obtain rfl : reported = .error e := herror e ho
      exact ⟨rfl, { hf with library := hchecked }⟩
  | ok library =>
      obtain ⟨reported, rfl, hnone⟩ := hok library ho
      refine ⟨?_, ⟨hhost, hsettings, hsnap ▸ hf.wellFormed, hsnap ▸ hf.reliable, hchecked⟩⟩
      simp only
      rw [← hverdict]
      cases hd : ((checkText view path text).run h).1 with
      | error e => rfl
      | ok ds =>
          refine congrArg Except.ok ?_
          rw [withoutLibrary, List.filter_append]
          change withoutLibrary reported ++ withoutLibrary ds = ds
          rw [hnone, withoutLibrary_of_checkText hd]
          rfl

/-- **A call finds the verdict**, whatever has been checked before, and what is remembered
stays faithful. -/
theorem diagnostics_verdict (hc : view.Coherent) (hf : Faithful view origin h s) (file : Path) :
    (diagnostics view file h s).1.map withoutLibrary = verdict view origin file ∧
      Faithful view origin (diagnostics view file h s).2.1 (diagnostics view file h s).2.2 := by
  have hf' : Faithful view origin { h with snapshots := (h.snapshots.fetch view file).2 } s :=
    hf.withSnapshots (hf.wellFormed.fetch view file).2.1 (hf.reliable.fetch hf.wellFormed file)
  rw [diagnostics_eq, source_eq view file hf.wellFormed, hf.reliable.fst_fetch hf.wellFormed,
    verdict]
  cases sourceOf file (SnapshotTable.lookUp view file.normalize none).1 with
  | error e => exact ⟨rfl, hf'⟩
  | ok read => exact check_verdict hc hf' read.1 read.2

end ImportLint.ImportCheck
