import ImportLint.Proofs.Checking.Library

/-!
# Checking — one call

A call takes the text of its file from the host, looks for the library, and checks the text.

* `source`: the file that a call checks, with the text of its snapshot.
* `diagnostics_eq`: a call, given its source.
* `eq_missingLibrary_of_checkLibrary`, `checkText_eq_ok`: all that a call can report.
-/

namespace ImportLint.ImportCheck

/-- The file that a call checks, with the text of its snapshot. -/
def source (view : FileView) (file : Path) : Host.Request (Path × Text) := do
  match ← Host.snapshot view file with
  | none => throw (.fileRead file (.ofKind .notFound))
  | some id =>
    let path := ((← get).snapshots.snapshot id).path
    return (path, ← Host.text view id)

theorem run_run {ε σ α : Type} (m : ExceptT ε (StateM σ) α) (s : σ) : m.run.run s = m.run s := rfl

/-- The run of a request for a source. -/
theorem source_run (view : FileView) (file : Path) (h : Host) :
    (source view file).run h =
      match (Host.snapshot view file).run h with
      | (.error e, h') => (.error e, h')
      | (.ok none, h') => (.error (.fileRead file (.ofKind .notFound)), h')
      | (.ok (some id), h') =>
        match (Host.text view id).run h' with
        | (.error e, h'') => (.error e, h'')
        | (.ok text, h'') => (.ok ((h'.snapshots.snapshot id).path, text), h'') := by
  unfold source
  rw [run_bind]
  generalize (Host.snapshot view file).run h = opened
  obtain ⟨opened, h'⟩ := opened
  cases opened with
  | error e => rfl
  | ok id =>
      cases id with
      | none => rfl
      | some id =>
          simp only
          rw [run_bind]
          change ExceptT.run (Host.text view id >>= fun text => pure (_, text)) h' = _
          rw [run_bind]
          generalize (Host.text view id).run h' = read
          obtain ⟨text, h''⟩ := read
          cases text <;> rfl

/-- **A call, given its source.** -/
theorem diagnostics_eq (view : FileView) (file : Path) (h : Host) (s : State) :
    diagnostics view file h s =
      match (source view file).run h with
      | (.error e, h') => (.error e, h', s)
      | (.ok (path, text), h') =>
        match checkLibrary view h' s with
        | (.error e, s') => (.error e, h', s')
        | (.ok library, s') =>
          (((checkText view path text).run h').1.map (library ++ ·),
            ((checkText view path text).run h').2, s') := by
  unfold diagnostics
  rw [source_run, run_run]
  generalize (Host.snapshot view file).run h = opened
  obtain ⟨opened, h'⟩ := opened
  cases opened with
  | error e => rfl
  | ok id =>
      cases id with
      | none => rfl
      | some id =>
          simp only
          rw [run_run]
          generalize (Host.text view id).run h' = read
          obtain ⟨text, h''⟩ := read
          cases text with
          | error e => rfl
          | ok text =>
              simp only
              generalize checkLibrary view h'' s = looked
              obtain ⟨library, s'⟩ := looked
              cases library <;> rfl

/-! ### What is found -/

/-- A call that is answered has a source, and finds the report of the library and the faults of
the text. -/
theorem diagnostics_eq_ok {view : FileView} {file : Path} {h : Host} {s : State}
    {ds : List Diagnostic} (hd : (diagnostics view file h s).1 = .ok ds) :
    ∃ path text h' library found, (source view file).run h = (.ok (path, text), h') ∧
      (checkLibrary view h' s).1 = .ok library ∧
      ((checkText view path text).run h').1 = .ok found ∧ ds = library ++ found := by
  rw [diagnostics_eq] at hd
  cases e : (source view file).run h with
  | mk read h' =>
      rw [e] at hd
      cases read with
      | error f => cases hd
      | ok read =>
          obtain ⟨path, text⟩ := read
          simp only at hd
          cases e' : checkLibrary view h' s with
          | mk library s' =>
              rw [e'] at hd
              cases library with
              | error f => cases hd
              | ok library =>
                  simp only at hd
                  cases hf : ((checkText view path text).run h').1 with
                  | error f => rw [hf] at hd; cases hd
                  | ok found =>
                      rw [hf] at hd
                      cases hd
                      exact ⟨path, text, h', library, found, rfl, by rw [e'], hf, rfl⟩

/-- All that looking for the library can report. -/
theorem eq_missingLibrary_of_checkLibrary {view : FileView} {h : Host} {s : State}
    {library : List Diagnostic} (hl : (checkLibrary view h s).1 = .ok library) {d : Diagnostic}
    (hd : d ∈ library) : ∃ lib, d = missingLibrary lib := by
  unfold checkLibrary at hl
  split at hl
  · cases hl; cases hd
  · split at hl
    · cases hl; cases hd
    · next lib _ =>
      split at hl
      · cases hl; cases hd
      · split at hl
        · cases hl
        · cases hl; cases hd
        · cases hl
          exact ⟨lib, List.mem_singleton.mp hd⟩

/-- The faults of a text are its syntax errors and those of its references. -/
theorem checkText_eq_ok {view : FileView} {path : Path} {text : Text} {h : Host}
    {ds : List Diagnostic} (hd : ((checkText view path text).run h).1 = .ok ds) {d : Diagnostic}
    (hm : d ∈ ds) :
    ∃ kind, ModuleKind.ofPath path = some kind ∧
      ((∃ p ∈ (SourceFacts.ofText kind text).problems,
          d = .located .error syntaxErrorCode p.message path p.start p.length) ∨
        ∃ r ∈ (SourceFacts.ofText kind text).references, ∃ options found,
          faultOf options path r found = some d) := by
  rw [checkText_run] at hd
  cases hk : ModuleKind.ofPath path with
  | none =>
      rw [hk] at hd
      cases hd
      cases hm
  | some kind =>
      rw [hk] at hd
      refine ⟨kind, rfl, ?_⟩
      simp only at hd
      split at hd
      · cases hd
      · next found h' _ =>
        cases hd
        rcases List.mem_append.mp hm with hm | hm
        · obtain ⟨p, hp, rfl⟩ := List.mem_map.mp hm
          exact Or.inl ⟨p, hp, rfl⟩
        · obtain ⟨⟨r, m⟩, hr, hf⟩ := List.mem_filterMap.mp hm
          have hr := (List.mem_filter.mp (List.of_mem_zip hr).1).1
          exact Or.inr ⟨r, hr, _, _, hf⟩

end ImportLint.ImportCheck
