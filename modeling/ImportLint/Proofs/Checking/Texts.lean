import ImportLint.Proofs.Checking.Literals
import ImportLint.Proofs.Files.Lines

/-!
# Checking — the text that is checked

The text that a call checks and the lines that its faults are reported with come from one table
of snapshots.

* `source_eq`, `Host.lineTable_run`: both are a request for the text of a path; the second one
  notes the lines.
* `snapshots_diagnostics`: a call makes that request and no other.
* `Diagnostic.IsAbout`: a diagnostic about a place in a file, or about no file.
* `isAbout_of_diagnostics`: the faults that a call finds are about the text that it checks.
-/

namespace ImportLint

/-- A diagnostic about some bytes of a file, or about no file. -/
def Diagnostic.IsAbout (d : Diagnostic) (p : Path) : Prop :=
  d.file = none ∨ d.file = some p ∧
    ∃ start length, d.start = some start ∧ d.length = some length ∧ 0 < length

theorem Diagnostic.isAbout_located (category : Category) (code : Nat) (message : String)
    (p : Path) (start : Nat) {length : Nat} (hl : 0 < length) :
    (located category code message p start length).IsAbout p :=
  Or.inr ⟨rfl, start, length, rfl, rfl, hl⟩

namespace Host

open ImportCheck (run_run)

theorem snapshot_run (view : FileView) (p : Path) (h : Host) :
    (snapshot view p).run h =
      ((h.snapshots.get view p).1, { h with snapshots := (h.snapshots.get view p).2 }) := rfl

theorem text_run (view : FileView) (id : Nat) (h : Host) :
    (text view id).run h =
      ((h.snapshots.text view id).1, { h with snapshots := (h.snapshots.text view id).2 }) := rfl

theorem withSnapshots_run {α : Type} (run : SnapshotTable → α × SnapshotTable) (h : Host) :
    (withSnapshots run).run h =
      ((run h.snapshots).1, { h with snapshots := (run h.snapshots).2 }) := rfl

theorem stateRun_bind {σ α β : Type} (m : StateM σ α) (k : α → StateM σ β) (s : σ) :
    (m >>= k).run s = (k (m.run s).1).run (m.run s).2 := rfl

/-- **The lines of a path** are those of its text, and are noted with it. -/
theorem lineTable_run (view : FileView) (p : Path) {h : Host} (hw : h.snapshots.WellFormed) :
    ∃ t, (h.snapshots.fetch view p).2.Notes t ∧
      (lineTable view p).run h =
        ((h.snapshots.fetch view p).1.toOption.join.map LineTable.ofText,
          { h with snapshots := t }) := by
  unfold lineTable SnapshotTable.fetch
  rw [stateRun_bind, run_run, snapshot_run]
  have hw' := hw.snd_get view p
  generalize h.snapshots.get view p = got at hw' ⊢
  obtain ⟨opened, t⟩ := got
  cases opened with
  | error e => exact ⟨t, .refl t, rfl⟩
  | ok id =>
      cases id with
      | none => exact ⟨t, .refl t, rfl⟩
      | some id =>
          obtain ⟨htold, hnotes⟩ := hw'.lineTable view id
          refine ⟨_, hnotes, ?_⟩
          simp only
          rw [stateRun_bind, withSnapshots_run]
          simp only [htold]
          cases (t.text view id).1 <;> rfl

end Host

namespace ImportCheck

/-- What a call checks, given what its request for the text is told. -/
def sourceOf (file : Path) : Except LintError (Option Text) → Except LintError (Path × Text)
  | .error e => .error e
  | .ok none => .error (.fileRead file (.ofKind .notFound))
  | .ok (some text) => .ok (file.normalize, text)

/-- **What a call checks** is the text of its file, which is known by its normal form. -/
theorem source_eq (view : FileView) (file : Path) {h : Host} (hw : h.snapshots.WellFormed) :
    (source view file).run h =
      (sourceOf file (h.snapshots.fetch view file).1,
        { h with snapshots := (h.snapshots.fetch view file).2 }) := by
  rw [source_run, Host.snapshot_run, SnapshotTable.fetch]
  have hpath : ∀ id, (h.snapshots.get view file).1 = .ok (some id) →
      ((h.snapshots.get view file).2.snapshot id).path = file.normalize := fun _ => hw.path_of_get
  generalize h.snapshots.get view file = got at hpath ⊢
  obtain ⟨opened, t⟩ := got
  cases opened with
  | error e => rfl
  | ok id =>
      cases id with
      | none => rfl
      | some id =>
          have hpath : (t.snapshot id).path = file.normalize := hpath id rfl
          simp only
          rw [Host.text_run]
          simp only [hpath]
          cases (t.text view id).1 <;> rfl

/-! ### One call -/

theorem checkText_withSnapshots (view : FileView) (path : Path) (text : Text) (h : Host)
    (t : SnapshotTable) :
    (checkText view path text).run { h with snapshots := t } =
      (((checkText view path text).run h).1,
        { ((checkText view path text).run h).2 with snapshots := t }) := by
  rw [checkText_run, checkText_run]
  cases ModuleKind.ofPath path with
  | none => rfl
  | some kind =>
      simp only
      rw [Host.resolveAll_withSnapshots]
      generalize (Host.resolveAll view path _).run h = run
      obtain ⟨found, h'⟩ := run
      cases found <;> rfl

theorem snapshots_checkText (view : FileView) (path : Path) (text : Text) (h : Host) :
    ((checkText view path text).run h).2.snapshots = h.snapshots :=
  congrArg (·.2.snapshots) (checkText_withSnapshots view path text h h.snapshots)

/-- **A call requests the text of its file** and changes no other snapshot. -/
theorem snapshots_diagnostics (view : FileView) (file : Path) {h : Host}
    (hw : h.snapshots.WellFormed) (s : State) :
    (diagnostics view file h s).2.1.snapshots = (h.snapshots.fetch view file).2 := by
  rw [diagnostics_eq, source_eq view file hw]
  cases sourceOf file (h.snapshots.fetch view file).1 with
  | error e => rfl
  | ok read =>
      obtain ⟨path, text⟩ := read
      simp only
      generalize checkLibrary view _ s = looked
      obtain ⟨library, s'⟩ := looked
      cases library with
      | error e => rfl
      | ok library => exact snapshots_checkText ..

theorem length_pos_of_mem_problems {kind : ModuleKind} {text : Text} {p : SyntaxProblem}
    (hp : p ∈ (SourceFacts.ofText kind text).problems) : 0 < p.length := by
  have hfault : ∀ f : Syntax.Fault, 0 < (SyntaxProblem.ofFault f).length := fun f =>
    Nat.lt_of_lt_of_le Nat.zero_lt_one (Nat.le_max_right _ _)
  unfold SourceFacts.ofText SourceFacts.ofModule at hp
  split at hp
  · simp only at hp
    split at hp
    · obtain ⟨f, -, rfl⟩ := List.mem_map.mp hp
      exact hfault f
    · rcases List.mem_append.mp hp with hp | hp
      · obtain ⟨f, -, rfl⟩ := List.mem_map.mp hp
        exact hfault f
      · exact List.mem_singleton.mp hp ▸ hfault _
  · cases hp

theorem length_pos_of_mem_references {path : Path} {text : Text} {kind : ModuleKind}
    (hk : ModuleKind.ofPath path = some kind) {r : Reference}
    (hr : r ∈ (SourceFacts.ofText kind text).references) : 0 < r.length := by
  obtain ⟨m, -, items, -, hr⟩ := exists_items_of_mem_references hk hr
  obtain ⟨t, -, hr⟩ := List.mem_flatMap.mp hr
  obtain ⟨l, -, rfl⟩ := List.mem_map.mp (t.references_subset hr)
  exact Nat.lt_of_lt_of_le Nat.zero_lt_one (Nat.le_max_right _ _)

/-- **What a call finds is about its file**, whose text it knows from then on. -/
theorem isAbout_of_diagnostics {view : FileView} {file : Path} {h : Host} {s : State}
    (hw : h.snapshots.WellFormed) {ds : List Diagnostic}
    (hd : (diagnostics view file h s).1 = .ok ds) :
    ∃ text, (h.snapshots.fetch view file).1 = .ok (some text) ∧
      ∀ d ∈ ds, d.IsAbout file.normalize := by
  obtain ⟨path, text, h', library, found, hs, hlibrary, hfound, rfl⟩ := diagnostics_eq_ok hd
  rw [source_eq view file hw] at hs
  have hsource := congrArg Prod.fst hs
  simp only at hsource
  unfold sourceOf at hsource
  split at hsource
  · cases hsource
  · cases hsource
  · next text' hf =>
    cases hsource
    refine ⟨text, hf, fun d hm => ?_⟩
    rcases List.mem_append.mp hm with hm | hm
    · obtain ⟨lib, rfl⟩ := eq_missingLibrary_of_checkLibrary hlibrary hm
      exact Or.inl rfl
    · obtain ⟨kind, hk, ⟨p, hp, rfl⟩ | ⟨r, hr, options, m, hf⟩⟩ := checkText_eq_ok hfound hm
      · exact Diagnostic.isAbout_located _ _ _ _ _ (length_pos_of_mem_problems hp)
      · obtain ⟨-, hfile, hstart, hlength⟩ := faultOf_spec hf
        exact Or.inr ⟨hfile, _, _, hstart, hlength, length_pos_of_mem_references hk hr⟩

end ImportCheck

end ImportLint
