import ImportLint.Checking.ImportEngine
import ImportLint.Files.Memory
import ImportLint.Proofs.Session.Requests

/-!
# Checking — the report of a missing library

The engine of a session reports once that the default library is missing.  It counts the report
as made when it has looked for the library, which is before the references of the file are
looked at; if one of these fails, the call fails and its report is lost.

* `Session.replies`: what becomes of the calls of a run, in which files are written and fail.
* `Reply.reached`: whether a call got as far as the references.
* `DeliveredOnce`: the first answer reports the library once, and no other answer does.
* `diagnostics_spec`: what one call does.
* `deliveredOnce_iff`: the report is delivered once exactly in the runs whose first call that
  got as far as the references is answered.
-/

namespace ImportLint.ImportCheck

open Host (SameSettings)

/-! ### One call -/

/-- How often an answer reports that the library is missing. -/
def reports (ds : List Diagnostic) : Nat := ds.countP fun d => d.code == missingLibraryCode

theorem reports_append (a b : List Diagnostic) : reports (a ++ b) = reports a + reports b :=
  List.countP_append

theorem reports_eq_zero {ds : List Diagnostic} (h : ∀ d ∈ ds, d.code ≠ missingLibraryCode) :
    reports ds = 0 :=
  List.countP_eq_zero.mpr fun d hd => by simpa using h d hd

theorem code_faultOf {options : CompilerOptions} {path : Path} {r : Reference}
    {found : Option ResolvedModule} {d : Diagnostic} (h : faultOf options path r found = some d) :
    d.code ≠ missingLibraryCode := by
  unfold faultOf at h
  cases found with
  | none =>
      cases h
      exact (by decide : unknownModuleCode ≠ missingLibraryCode)
  | some m =>
      simp only at h
      split at h
      · cases h
        exact (by decide : untypedModuleCode ≠ missingLibraryCode)
      · cases h

theorem reports_problems (options : CompilerOptions) (path : Path)
    (found : List (Reference × Option (Shared ResolvedModule))) :
    reports (problems options path found) = 0 :=
  reports_eq_zero fun _ hd => by
    obtain ⟨_, -, hd⟩ := List.mem_filterMap.mp hd
    exact code_faultOf hd

/-- The run of a check: errors first, then the faults of the references. -/
theorem checkText_run (view : FileView) (path : Path) (text : Text) (h : Host) :
    (checkText view path text).run h =
      match ModuleKind.ofPath path with
      | none => (.ok [], h)
      | some kind =>
        let facts := SourceFacts.ofText kind text
        let errors := facts.problems.map fun p =>
          Diagnostic.located .error syntaxErrorCode p.message path p.start p.length
        let references := facts.references.filter isChecked
        match (Host.resolveAll view path (references.map Reference.specifier)).run h with
        | (.error e, h') => (.error e, h')
        | (.ok found, h') =>
          (.ok (errors ++ problems h'.config.options path (references.zip found)), h') := by
  unfold checkText
  cases ModuleKind.ofPath path with
  | none => rfl
  | some kind =>
      simp only
      rw [run_bind]
      generalize (Host.resolveAll view path _).run h = run
      obtain ⟨found, h'⟩ := run
      cases found <;> rfl

/-- A check leaves the settings alone and does not report the library. -/
theorem checkText_spec (view : FileView) (path : Path) (text : Text) (h : Host) :
    SameSettings h ((checkText view path text).run h).2 ∧
      ∀ ds, ((checkText view path text).run h).1 = .ok ds → reports ds = 0 := by
  rw [checkText_run]
  cases ModuleKind.ofPath path with
  | none => exact ⟨.refl h, fun ds e => by cases e; rfl⟩
  | some kind =>
      simp only
      have hs := Host.sameSettings_resolveAll view path
        (((SourceFacts.ofText kind text).references.filter isChecked).map Reference.specifier) h
      generalize (Host.resolveAll view path _).run h = run at hs ⊢
      obtain ⟨found, h'⟩ := run
      cases found with
      | error e => exact ⟨hs, fun ds hd => by cases hd⟩
      | ok found =>
          refine ⟨hs, fun ds hd => ?_⟩
          cases hd
          rw [reports_append, reports_problems, Nat.add_zero]
          refine reports_eq_zero fun d hd => ?_
          obtain ⟨p, -, rfl⟩ := List.mem_map.mp hd
          change syntaxErrorCode ≠ missingLibraryCode
          decide

/-- A call gets as far as the references of the file: the file is there and can be read, and
nothing fails in looking for the library. -/
def reaches (view : FileView) (file : Path) (h : Host) (s : State) : Bool :=
  match (Host.snapshot view file).run.run h with
  | (.ok (some id), h) =>
    match (Host.text view id).run.run h with
    | (.ok _, h) => (checkLibrary view h s).1.isOk
    | (.error _, _) => false
  | _ => false

/-- The library is known by its path, and the settings do not do without it. -/
structure Wanted (h : Host) (lib : Path) : Prop where
  library : h.defaultLibrary = some lib
  noLib : h.config.options.noLib = false

theorem Wanted.of_same {h h' : Host} {lib : Path} (w : Wanted h lib) (s : SameSettings h h') :
    Wanted h' lib :=
  ⟨s.defaultLibrary.trans w.library, s.config ▸ w.noLib⟩

/-- Looking for a library that is not there fails, or reports it unless that has been done. -/
theorem checkLibrary_spec {view : FileView} {h : Host} {s : State} {lib : Path}
    (w : Wanted h lib) (habsent : view.fileExists lib ≠ .ok true) :
    (∃ e, checkLibrary view h s = (.error e, s)) ∨
      ∃ ds s', checkLibrary view h s = (.ok ds, s') ∧ s'.libraryChecked = true ∧
        reports ds = if s.libraryChecked then 0 else 1 := by
  unfold checkLibrary
  cases hs : s.libraryChecked with
  | true => exact Or.inr ⟨[], s, rfl, hs, rfl⟩
  | false =>
      rw [w.library]
      simp only [w.noLib]
      cases e : view.fileExists lib with
      | error f => exact Or.inl ⟨f, rfl⟩
      | ok found =>
          cases found with
          | true => exact absurd e habsent
          | false => exact Or.inr ⟨[missingLibrary lib], ⟨true⟩, rfl, rfl, rfl⟩

/-- **One call.**  The library is reported by the call that looks for it, if that call is
answered; a call that does not get as far as the references fails and leaves the state as it
was. -/
theorem diagnostics_spec {view : FileView} {h : Host} {lib : Path} (w : Wanted h lib)
    (habsent : view.fileExists lib ≠ .ok true) (file : Path) (s : State) :
    SameSettings h (diagnostics view file h s).2.1 ∧
      ((reaches view file h s = false ∧ (diagnostics view file h s).1.isOk = false ∧
          (diagnostics view file h s).2.2 = s) ∨
        (reaches view file h s = true ∧ (diagnostics view file h s).2.2.libraryChecked = true ∧
          ∀ ds, (diagnostics view file h s).1 = .ok ds →
            reports ds = if s.libraryChecked then 0 else 1)) := by
  unfold diagnostics reaches
  have h₁ := Host.sameSettings_snapshot view file h
  change SameSettings h ((Host.snapshot view file).run.run h).2 at h₁
  generalize (Host.snapshot view file).run.run h = opened at h₁ ⊢
  obtain ⟨opened, h'⟩ := opened
  cases opened with
  | error f => exact ⟨h₁, Or.inl ⟨rfl, rfl, rfl⟩⟩
  | ok id =>
    cases id with
    | none => exact ⟨h₁, Or.inl ⟨rfl, rfl, rfl⟩⟩
    | some id =>
      have h₂ := h₁.trans (Host.sameSettings_text view id h')
      change SameSettings h ((Host.text view id).run.run h').2 at h₂
      simp only
      generalize (Host.text view id).run.run h' = read at h₂ ⊢
      obtain ⟨text, h''⟩ := read
      cases text with
      | error f => exact ⟨h₂, Or.inl ⟨rfl, rfl, rfl⟩⟩
      | ok text =>
        simp only
        obtain ⟨e, hc⟩ | ⟨ds, s', hc, hchecked, hds⟩ :=
          checkLibrary_spec (s := s) (w.of_same h₂) habsent
        · rw [hc]
          exact ⟨h₂, Or.inl ⟨rfl, rfl, rfl⟩⟩
        · rw [hc]
          obtain ⟨hs, hr⟩ := checkText_spec view (h'.snapshots.snapshot id).path text h''
          simp only
          refine ⟨h₂.trans hs, Or.inr ⟨rfl, hchecked, fun found hf => ?_⟩⟩
          change Except.map (ds ++ ·) ((checkText view _ text).run h'').1 = .ok found at hf
          cases hrun : ((checkText view (h'.snapshots.snapshot id).path text).run h'').1 with
          | error e => rw [hrun] at hf; cases hf
          | ok rest =>
            rw [hrun] at hf
            cases hf
            rw [reports_append, hds, hr rest hrun, Nat.add_zero]

/-! ### Runs -/

/-- A session and the files that it sees. -/
structure Session where
  tree : MemoryTree
  host : Host
  state : State

/-- What happens in a run. -/
inductive Event where
  | check (file : Path)
  | write (path : Path) (content : Text)
  | fail (path : Path) (kind : IoKind)
  | clear (path : Path)

/-- What becomes of a call. -/
structure Reply where
  /-- The call got as far as the references of its file. -/
  reached : Bool
  answer : Except LintError (List Diagnostic)

/-- The answer of a call that does not fail. -/
def Reply.found (r : Reply) : Option (List Diagnostic) := r.answer.toOption

namespace Session

/-- The session after an event, whether a call is answered or fails. -/
def next (σ : Session) : Event → Session
  | .check file =>
    let (_, host, state) := diagnostics σ.tree.view file σ.host σ.state
    { σ with host, state }
  | .write path content => { σ with tree := σ.tree.write path content }
  | .fail path kind => { σ with tree := σ.tree.fail path kind }
  | .clear path => { σ with tree := σ.tree.clearFailure path }

/-- What becomes of a call. -/
def call (σ : Session) (file : Path) : Reply where
  reached := reaches σ.tree.view file σ.host σ.state
  answer := (diagnostics σ.tree.view file σ.host σ.state).1

/-- What becomes of the calls of a run. -/
def replies : Session → List Event → List Reply
  | _, [] => []
  | σ, .check file :: rest => σ.call file :: replies (σ.next (.check file)) rest
  | σ, e :: rest => replies (σ.next e) rest

/-- A session that wants a library which is in no file. -/
structure Lacks (σ : Session) (lib : Path) : Prop where
  wanted : Wanted σ.host lib
  absent : σ.tree.files.get? lib.components = none

end Session

/-- An event that does not write the library. -/
def Event.Spares (lib : Path) : Event → Prop
  | .write path _ => ¬ path.Same lib
  | _ => True

/-- The first answer reports the library once, and no other answer does. -/
def DeliveredOnce (replies : List Reply) : Prop :=
  match replies.filterMap Reply.found with
  | [] => True
  | first :: others => reports first = 1 ∧ ∀ ds ∈ others, reports ds = 0

theorem not_deliveredOnce_of_reports {replies : List Reply}
    (h : ((replies.filterMap Reply.found).map reports).head? = some 0) :
    ¬ DeliveredOnce replies := by
  intro hd
  unfold DeliveredOnce at hd
  split at hd
  · next e => rw [e] at h; cases h
  · next first others e =>
    rw [e] at h
    exact absurd ((Option.some.inj h).symm.trans hd.1) Nat.zero_ne_one

/-- What is in no file is not seen as one, whatever fails. -/
theorem fileExists_of_absent {t : MemoryTree} {p : Path} (h : t.files.get? p.components = none) :
    t.view.fileExists p ≠ .ok true := by
  have hstat : ∀ s, t.view.stat p = .ok s → s.isFile = false := by
    intro s hs
    change t.stat p = .ok s at hs
    unfold MemoryTree.stat at hs
    rw [h] at hs
    split at hs
    · cases hs
    · simp only at hs
      split at hs
      · cases hs; rfl
      · cases hs
  intro hp
  unfold FileView.fileExists at hp
  cases e : t.view.stat p with
  | ok s =>
      rw [e] at hp
      exact absurd ((Except.ok.inj hp).symm.trans (hstat s e)) Bool.true_eq_false.mp
  | error f =>
      rw [e] at hp
      simp only at hp
      split at hp
      · cases hp
      · cases hp

namespace Session

variable {σ : Session} {lib : Path}

theorem Lacks.next (hl : σ.Lacks lib) {e : Event} (he : e.Spares lib) : (σ.next e).Lacks lib := by
  cases e with
  | check file =>
      exact ⟨hl.wanted.of_same (diagnostics_spec hl.wanted (fileExists_of_absent hl.absent) _ _).1,
        hl.absent⟩
  | write path content =>
      refine ⟨hl.wanted, ?_⟩
      change (σ.tree.files.insert path.components content).get? lib.components = none
      rw [Table.get?_insert, if_neg fun hs => he hs.symm, hl.absent]
  | fail path kind => exact ⟨hl.wanted, hl.absent⟩
  | clear path => exact ⟨hl.wanted, hl.absent⟩

/-- One call of a session that lacks its library. -/
theorem call_spec (hl : σ.Lacks lib) (file : Path) :
    ((σ.call file).reached = false ∧ (σ.call file).found = none ∧
        (σ.next (.check file)).state = σ.state) ∨
      ((σ.call file).reached = true ∧ (σ.next (.check file)).state.libraryChecked = true ∧
        ∀ ds, (σ.call file).found = some ds →
          reports ds = if σ.state.libraryChecked then 0 else 1) := by
  obtain ⟨hr, ha, hs⟩ | ⟨hr, hs, hd⟩ :=
    (diagnostics_spec hl.wanted (fileExists_of_absent hl.absent) file σ.state).2
  · refine Or.inl ⟨hr, ?_, hs⟩
    change (diagnostics σ.tree.view file σ.host σ.state).1.toOption = none
    cases e : (diagnostics σ.tree.view file σ.host σ.state).1 with
    | error f => rfl
    | ok ds => rw [e] at ha; cases ha
  · refine Or.inr ⟨hr, hs, fun ds hds => hd ds ?_⟩
    change (diagnostics σ.tree.view file σ.host σ.state).1.toOption = some ds at hds
    cases e : (diagnostics σ.tree.view file σ.host σ.state).1 with
    | error f => rw [e] at hds; cases hds
    | ok found => rw [e] at hds; cases hds; rfl

/-- Once the library has been looked for, no answer reports it. -/
theorem reports_of_checked {events : List Event} (hl : σ.Lacks lib)
    (hs : σ.state.libraryChecked = true) (he : ∀ e ∈ events, e.Spares lib) :
    ∀ ds ∈ (σ.replies events).filterMap Reply.found, reports ds = 0 := by
  induction events generalizing σ with
  | nil => exact fun ds hd => by cases hd
  | cons e rest ih =>
      have hl' := hl.next (he e List.mem_cons_self)
      have he' : ∀ e ∈ rest, e.Spares lib := fun e h => he e (List.mem_cons_of_mem _ h)
      cases e with
      | check file =>
          rw [replies, List.filterMap_cons]
          obtain ⟨-, hf, hn⟩ | ⟨-, hn, hf⟩ := call_spec hl file
          · rw [hf]
            exact ih hl' (hn ▸ hs) he'
          · intro ds hds
            cases e : (σ.call file).found with
            | none =>
                rw [e] at hds
                exact ih hl' hn he' ds hds
            | some found =>
                rw [e, List.mem_cons] at hds
                rcases hds with rfl | hds
                · rw [hf ds e, hs]; rfl
                · exact ih hl' hn he' ds hds
      | write path content => exact ih hl' hs he'
      | fail path kind => exact ih hl' hs he'
      | clear path => exact ih hl' hs he'

/-- The answers of a run in which the library is still to be looked for: they depend on what
becomes of the first call that gets as far as the references. -/
theorem answers_of_unchecked {events : List Event} (hl : σ.Lacks lib)
    (hs : σ.state.libraryChecked = false) (he : ∀ e ∈ events, e.Spares lib) :
    match (σ.replies events).find? Reply.reached with
    | none => (σ.replies events).filterMap Reply.found = []
    | some r =>
      match r.found with
      | none => ∀ ds ∈ (σ.replies events).filterMap Reply.found, reports ds = 0
      | some first => ∃ others, (σ.replies events).filterMap Reply.found = first :: others ∧
          reports first = 1 ∧ ∀ ds ∈ others, reports ds = 0 := by
  induction events generalizing σ with
  | nil => rfl
  | cons e rest ih =>
      have hl' := hl.next (he e List.mem_cons_self)
      have he' : ∀ e ∈ rest, e.Spares lib := fun e h => he e (List.mem_cons_of_mem _ h)
      cases e with
      | check file =>
          rw [replies, List.filterMap_cons]
          obtain ⟨hr, hf, hn⟩ | ⟨hr, hn, hf⟩ := call_spec hl file
          · rw [List.find?_cons_of_neg (by simp [hr]), hf]
            exact ih hl' (hn ▸ hs) he'
          · have later := reports_of_checked hl' hn he'
            rw [List.find?_cons_of_pos hr]
            simp only
            cases e : (σ.call file).found with
            | none => exact later
            | some first => exact ⟨_, rfl, by rw [hf first e, hs]; rfl, later⟩
      | write path content => exact ih hl' hs he'
      | fail path kind => exact ih hl' hs he'
      | clear path => exact ih hl' hs he'

end Session

/-- **The report is delivered once exactly if the call that makes it is answered**: in a run that
starts before the library is looked for, no call is answered at all, or the first call that gets
as far as the references of its file is. -/
theorem deliveredOnce_iff {σ : Session} {lib : Path} {events : List Event} (hl : σ.Lacks lib)
    (hs : σ.state.libraryChecked = false) (he : ∀ e ∈ events, e.Spares lib) :
    DeliveredOnce (σ.replies events) ↔
      (∀ r ∈ σ.replies events, r.found = none) ∨
        ∃ r ds, (σ.replies events).find? Reply.reached = some r ∧ r.found = some ds := by
  have h := Session.answers_of_unchecked hl hs he
  rw [← List.filterMap_eq_nil_iff]
  unfold DeliveredOnce
  cases hfirst : (σ.replies events).find? Reply.reached with
  | none =>
      rw [hfirst] at h
      simp only at h
      rw [h]
      exact ⟨fun _ => Or.inl rfl, fun _ => trivial⟩
  | some r =>
      rw [hfirst] at h
      cases hr : r.found with
      | none =>
          simp only [hr] at h
          cases hall : (σ.replies events).filterMap Reply.found with
          | nil => exact ⟨fun _ => Or.inl rfl, fun _ => trivial⟩
          | cons first others =>
              rw [hall] at h
              have hzero := h first List.mem_cons_self
              refine ⟨fun hd => ?_, fun hd => ?_⟩
              · exact absurd (hzero.symm.trans hd.1) Nat.zero_ne_one
              · obtain hd | ⟨r', ds, hr', hds⟩ := hd
                · cases hd
                · cases hr'
                  rw [hr] at hds
                  cases hds
      | some first =>
          simp only [hr] at h
          obtain ⟨others, hall, hone, hzero⟩ := h
          rw [hall]
          exact ⟨fun _ => Or.inr ⟨r, first, rfl, hr⟩, fun _ => ⟨hone, hzero⟩⟩

/-- A session without its library, whose one source refers to a file that cannot be looked at. -/
def unreadable : Session :=
  let tree := (MemoryTree.ofFiles [(.ofString "/p/a.ts", "import './b';".toList)]).fail
    (.ofString "/p/b.ts") .permissionDenied
  { tree
    host := .new tree.view default (.ofString "/p") [] (some (.ofString "/lib"))
    state := {} }

theorem lacks_unreadable : unreadable.Lacks (.ofString "/lib/lib.d.ts") where
  wanted := ⟨rfl, rfl⟩
  absent := by decide +kernel

/-- What happens to it: the source is checked, its reference becomes readable, and the source is
checked again. -/
def recovery : List Event := [
  .check (.ofString "/p/a.ts"),
  .clear (.ofString "/p/b.ts"),
  .check (.ofString "/p/a.ts")]

/-- **A report can be lost**: the first call fails at the reference, and the second one has
nothing to report. -/
theorem not_deliveredOnce_recovery :
    unreadable.Lacks (.ofString "/lib/lib.d.ts") ∧ unreadable.state.libraryChecked = false ∧
      (∀ e ∈ recovery, e.Spares (.ofString "/lib/lib.d.ts")) ∧
        ¬ DeliveredOnce (unreadable.replies recovery) := by
  refine ⟨lacks_unreadable, rfl, ?_, not_deliveredOnce_of_reports ?_⟩
  · simp [recovery, Event.Spares]
  · decide +kernel

/-- Checked only after its reference has become readable, the source has the report. -/
theorem deliveredOnce_recovered :
    unreadable.Lacks (.ofString "/lib/lib.d.ts") ∧
      DeliveredOnce (unreadable.replies recovery.tail) := by
  have hspares : ∀ e ∈ recovery.tail, e.Spares (.ofString "/lib/lib.d.ts") := by
    simp [recovery, Event.Spares]
  have hfirst : (((unreadable.replies recovery.tail).find? Reply.reached).bind
      Reply.found).isSome = true := by decide +kernel
  obtain ⟨ds, hds⟩ := Option.isSome_iff_exists.mp hfirst
  obtain ⟨r, hr, hds⟩ := Option.bind_eq_some_iff.mp hds
  refine ⟨lacks_unreadable, ?_⟩
  rw [deliveredOnce_iff lacks_unreadable rfl hspares]
  exact Or.inr ⟨r, ds, hr, hds⟩

end ImportLint.ImportCheck
