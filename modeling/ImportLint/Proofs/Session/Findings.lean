import ImportLint.Proofs.Checking.Texts
import ImportLint.Session.Registry

/-!
# Sessions — the text behind a list of faults

A session keeps a list of faults with its own table, and the text they were found in with the
snapshots of its host.  Both are filled by one call and emptied by one release, so whenever a
list is kept, the text is known too.

* `Session.checked`: what a call has checked anew, and what it has found in it.
* `Session.Holds`: each list that is kept comes with its text; `P` says what else is known of
  the two.
* `Holds.diagnostics`, `Holds.release`: calls keep it, whatever has become of the file.
-/

namespace ImportLint.Session

/-- A session of the engine that checks references. -/
abbrev Checking := Session ImportCheck.State

variable {bundled : Option Path} {view : FileView} {file : Path} {s : Checking}
  {P : Path → Shared (List Diagnostic) → Text → Prop}

/-- The text that a call checks and the faults that it finds in it.  A call that is answered from
the table checks nothing, and a call that fails finds nothing. -/
def checked (view : FileView) (file : Path) (s : Checking) : Option (Text × List Diagnostic) :=
  match s.found.get? file.normalize.components with
  | some _ => none
  | none =>
    match (ImportCheck.source view file.normalize).run s.host,
        ImportCheck.diagnostics view file.normalize s.host s.engine with
    | (.ok (_, text), _), (.ok faults, _) => some (text, faults)
    | _, _ => none

/-- What is checked anew is the source of the call, and what is found are its faults. -/
theorem of_checked {text : Text} {faults : List Diagnostic}
    (h : s.checked view file = some (text, faults)) :
    s.found.get? file.normalize.components = none ∧
      (∃ path, ((ImportCheck.source view file.normalize).run s.host).1 = .ok (path, text)) ∧
      (ImportCheck.diagnostics view file.normalize s.host s.engine).1 = .ok faults := by
  unfold checked at h
  split at h
  · cases h
  · next hnone =>
    split at h
    · next hs hd =>
      cases h
      exact ⟨hnone, ⟨_, congrArg Prod.fst hs⟩, congrArg Prod.fst hd⟩
    · cases h

/-- The texts of the lists that a session keeps are known, and the lists are about them. -/
structure Holds (P : Path → Shared (List Diagnostic) → Text → Prop) (s : Checking) : Prop where
  wellFormed : s.host.snapshots.WellFormed
  found : ∀ (p : Path) kept, s.found.get? p.normalize.components = some kept →
    ∃ text, s.host.snapshots.known p = some (some text) ∧
      (∀ d ∈ kept.value, d.IsAbout p.normalize) ∧ P p.normalize kept text

/-- A session that has found nothing. -/
theorem holds_of_empty (P : Path → Shared (List Diagnostic) → Text → Prop)
    (hw : s.host.snapshots.WellFormed) (hf : s.found = {}) : s.Holds P where
  wellFormed := hw
  found p kept hk := by
    rw [hf] at hk
    cases hk

theorem Holds.imp {Q : Path → Shared (List Diagnostic) → Text → Prop} (hs : s.Holds P)
    (h : ∀ p kept text, P p kept text → Q p kept text) : s.Holds Q where
  wellFormed := hs.wellFormed
  found p kept hk := by
    obtain ⟨text, hknown, habout, hP⟩ := hs.found p kept hk
    exact ⟨text, hknown, habout, h _ _ _ hP⟩

/-- **All that a call can do**: it is answered from the table; or the engine fails; or the faults
that the engine finds are kept. -/
theorem ask_cases {σ ω : Type} (e : Engine σ ω) (view : FileView) (file : Path) (s : Session σ)
    (shared : ω) :
    let run := s.diagnostics e view file shared
    (∃ known, s.found.get? file.normalize.components = some known ∧
        run = (.ok known, s, shared)) ∨
      s.found.get? file.normalize.components = none ∧
        let call := e.diagnostics view file.normalize (s.host, s.engine, shared)
        ((∃ f, call.1 = .error f ∧
            run = (.error f, { s with host := call.2.1, engine := call.2.2.1 }, call.2.2.2)) ∨
          ∃ fresh, call.1 = .ok fresh ∧
            run = (.ok ⟨s.made, fresh⟩,
              { s with
                host := call.2.1
                engine := call.2.2.1
                found := s.found.insert file.normalize.components ⟨s.made, fresh⟩
                made := s.made + 1 }, call.2.2.2)) := by
  unfold Session.diagnostics
  simp only
  cases hk : s.found.get? file.normalize.components with
  | some known => exact Or.inl ⟨known, rfl, rfl⟩
  | none =>
      refine Or.inr ⟨rfl, ?_⟩
      generalize e.diagnostics view file.normalize (s.host, s.engine, shared) = call
      obtain ⟨answer, host, engine, shared'⟩ := call
      cases answer with
      | error f => exact Or.inl ⟨f, rfl, rfl⟩
      | ok fresh => exact Or.inr ⟨fresh, rfl, rfl⟩

/-- What the session of a call keeps afterwards. -/
theorem diagnostics_cases (bundled : Option Path) (view : FileView) (file : Path) (s : Checking) :
    let run := s.diagnostics (importEngine bundled) view file ()
    (∃ known, s.found.get? file.normalize.components = some known ∧ run = (.ok known, s, ())) ∨
      s.found.get? file.normalize.components = none ∧
        let call := ImportCheck.diagnostics view file.normalize s.host s.engine
        ((∃ f, call.1 = .error f ∧
            run = (.error f, { s with host := call.2.1, engine := call.2.2 }, ())) ∨
          ∃ fresh, call.1 = .ok fresh ∧
            run = (.ok ⟨s.made, fresh⟩,
              { s with
                host := call.2.1
                engine := call.2.2
                found := s.found.insert file.normalize.components ⟨s.made, fresh⟩
                made := s.made + 1 }, ())) := by
  exact ask_cases (importEngine bundled) view file s ()

/-- Lists are numbered in the order in which they are made. -/
theorem made_diagnostics (bundled : Option Path) (view : FileView) (file : Path) (s : Checking) :
    let run := s.diagnostics (importEngine bundled) view file ()
    s.made ≤ run.2.1.made ∧
      ∀ found, s.checked view file = some found → run.2.1.made = s.made + 1 := by
  obtain ⟨known, hk, hrun⟩ | ⟨hnone, ⟨f, hf, hrun⟩ | ⟨fresh, -, hrun⟩⟩ :=
    diagnostics_cases bundled view file s
  · simp only
    rw [hrun]
    refine ⟨Nat.le_refl _, fun (text, faults) hc => ?_⟩
    rw [(of_checked hc).1] at hk
    cases hk
  · simp only
    rw [hrun]
    refine ⟨Nat.le_refl _, fun (text, faults) hc => ?_⟩
    rw [(of_checked hc).2.2] at hf
    cases hf
  · simp only
    rw [hrun]
    exact ⟨Nat.le_succ _, fun _ _ => rfl⟩

/-- Texts stay known when the text of another file is requested, or of the same. -/
theorem Holds.of_fetch (hs : s.Holds P) (view : FileView) (file : Path) {host : Host}
    (hsnap : host.snapshots = (s.host.snapshots.fetch view file).2) (engine : ImportCheck.State) :
    Holds P { s with host, engine } where
  wellFormed := hsnap ▸ (hs.wellFormed.fetch view file).2.1
  found p kept hk := by
    obtain ⟨text, hknown, habout, hP⟩ := hs.found p kept hk
    exact ⟨text, hsnap ▸ hs.wellFormed.known_fetch_of_known view file hknown, habout, hP⟩

/-- Texts stay known when lines are noted. -/
theorem Holds.note (hs : s.Holds P) {t : SnapshotTable} (ht : s.host.snapshots.Notes t) :
    Holds P { s with host := { s.host with snapshots := t } } where
  wellFormed := ht.wellFormed hs.wellFormed
  found p kept hk := by
    obtain ⟨text, hknown, habout, hP⟩ := hs.found p kept hk
    exact ⟨text, (SnapshotTable.known_eq ht.same p).trans hknown, habout, hP⟩

/-- **A call keeps texts with their lists**, and its answer is in the table afterwards. -/
theorem Holds.diagnostics (hs : s.Holds P) (bundled : Option Path) (view : FileView) (file : Path)
    (hP : ∀ text faults, s.checked view file = some (text, faults) →
      P file.normalize ⟨s.made, faults⟩ text) :
    let run := s.diagnostics (importEngine bundled) view file ()
    run.2.1.Holds P ∧
      ∀ kept, run.1 = .ok kept → run.2.1.found.get? file.normalize.components = some kept := by
  have hsnap := ImportCheck.snapshots_diagnostics view file.normalize hs.wellFormed s.engine
  obtain ⟨known, hk, hrun⟩ | ⟨hnone, ⟨f, -, hrun⟩ | ⟨fresh, hfresh, hrun⟩⟩ :=
    diagnostics_cases bundled view file s
  · simp only
    rw [hrun]
    exact ⟨hs, fun kept hkept => by cases hkept; exact hk⟩
  · simp only
    rw [hrun]
    exact ⟨hs.of_fetch view file.normalize hsnap _, fun kept hkept => by cases hkept⟩
  · simp only
    rw [hrun]
    have hkept := hs.of_fetch view file.normalize hsnap
      (ImportCheck.diagnostics view file.normalize s.host s.engine).2.2
    obtain ⟨text, hfetch, habout⟩ := ImportCheck.isAbout_of_diagnostics hs.wellFormed hfresh
    refine ⟨⟨hkept.wellFormed, fun p kept hk => ?_⟩, fun kept hk => ?_⟩
    · simp only [Table.get?_insert] at hk
      split at hk
      · next e =>
        cases hk
        have hp : p.normalize = file.normalize := Path.Same.eq_of_normalize e
        refine ⟨text, ?_, ?_, ?_⟩
        · rw [hsnap, SnapshotTable.known_congr _ (hp.trans (Path.normalize_normalize file).symm)]
          exact hs.wellFormed.known_of_fetch hfetch
        · rw [hp, ← Path.normalize_normalize file]
          exact habout
        · rw [hp]
          refine hP text fresh ?_
          have hsource := ImportCheck.source_eq view file.normalize hs.wellFormed
          rw [hfetch] at hsource
          rw [checked, hnone, hsource]
          generalize ImportCheck.diagnostics view file.normalize s.host s.engine = call at hfresh
          obtain ⟨answer, rest⟩ := call
          cases hfresh
          rfl
      · exact hkept.found p kept hk
    · cases hk
      exact (Table.get?_insert _ _ _ _).trans (if_pos rfl)

/-- **A release keeps texts with their lists**: it drops both. -/
theorem Holds.release (hs : s.Holds P) (bundled : Option Path) (file : Path) :
    (s.release (importEngine bundled) file ()).2.1.Holds P := by
  obtain ⟨-, hw, hother⟩ := hs.wellFormed.dispose file.normalize
  refine ⟨hw, fun p kept hk => ?_⟩
  change (s.found.erase file.normalize.components).get? p.normalize.components = some kept at hk
  rw [Table.get?_erase] at hk
  split at hk
  · cases hk
  · next hne =>
    obtain ⟨text, hknown, habout, hP⟩ := hs.found p kept hk
    refine ⟨text, (hother p fun e => hne ?_).trans hknown, habout, hP⟩
    rw [e, Path.normalize_normalize]

end ImportLint.Session
