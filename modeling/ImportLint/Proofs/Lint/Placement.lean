import Mathlib.Data.List.Forall2
import ImportLint.Proofs.Lint.Visits

/-!
# Linting — reports stand in the text that was checked

The faults of a file and its lines are remembered in different places, and the file can be
written anew, fail or be released at any time.  Nothing is assumed about that: each call sees the
files through a view of its own.

* `Linter.Call`: what can be asked of a linter and of its sessions.
* `Linter.findings`: the texts that are checked in a run, with the faults found in them.
* `Linter.Records`: a session that keeps a list of faults knows the text that it was found in.
  `Records.enter`, `ask`, `tell`, `release` are the steps, `Records.after` is the run.
* `reports_in_checked_text`: so the reports of a visit stand where the faults do in that text.
-/

namespace ImportLint.Linter

variable (bundled : Option Path)

/-- What can be asked of a linter and of its sessions. -/
inductive Call where
  | lint (file : Path)
  /-- For the session of a config, as one of a project with a root. -/
  | session (config root : Path)
  /-- For the faults of a file, from the session of a number. -/
  | diagnose (id : Nat) (file : Path)
  | release (id : Nat) (file : Path)

/-- The linter after a call. -/
def next (view : FileView) (l : Checking) : Call → Checking
  | .lint file => (l.lintFile (importEngine bundled) view file).2
  | .session config root => (l.enter bundled view (config, root)).2
  | .diagnose id file => (l.ask bundled view id file).2
  | .release id file => l.release bundled id file

/-- The linter after some calls, each with the files as it sees them. -/
def after (l : Checking) (run : List (FileView × Call)) : Checking :=
  run.foldl (fun l c => l.next bundled c.1 c.2) l

/-- A text that a session has checked as the text of a file, and the list of the faults that it
has found in it. -/
structure Finding where
  session : Nat
  file : Path
  text : Text
  faults : Shared (List Diagnostic)

/-- What asking a session finds anew. -/
def findingOf (view : FileView) (id : Nat) (file : Path) (l : Checking) : Option Finding :=
  l.registry.sessions[id]?.bind fun s =>
    (s.checked view file).map fun (text, faults) => ⟨id, file.normalize, text, ⟨s.made, faults⟩⟩

/-- What a call finds anew. -/
def finding? (view : FileView) (l : Checking) : Call → Option Finding
  | .lint file =>
    (projectOf view file).bind fun project =>
      match l.enter bundled view project with
      | (.ok id, l') => l'.findingOf view id file.normalize
      | (.error _, _) => none
  | .diagnose id file => l.findingOf view id file
  | .session .. | .release .. => none

/-- What is found in a run. -/
def findings : Checking → List (FileView × Call) → List Finding
  | _, [] => []
  | l, (view, c) :: rest =>
    (l.finding? bundled view c).toList ++ findings (l.next bundled view c) rest

/-- The list of faults that a visit is given, and the session that gives it. -/
def answer (view : FileView) (file : Path) (l : Checking) :
    Option (Nat × Shared (List Diagnostic)) :=
  (projectOf view file).bind fun project =>
    match l.enter bundled view project with
    | (.ok id, l') =>
      match l'.ask bundled view id file.normalize with
      | (some (.ok found), _) => some (id, found)
      | _ => none
    | (.error _, _) => none

/-- Sessions know the texts of the lists that they keep, as they were when these were found. -/
structure Records (options : LintOptions) (l : Checking) (past : List Finding) : Prop where
  options : l.registry.options = options
  holds : l.Each fun id s => s.Holds fun p kept text => ⟨id, p, text, kept⟩ ∈ past
  /-- The lists of a session are numbered. -/
  numbered : ∀ f ∈ past, ∃ s, l.registry.sessions[f.session]? = some s ∧ f.faults.id < s.made
  distinct : past.Pairwise fun f g => f.session = g.session → f.faults.id ≠ g.faults.id

namespace Records

variable {options : LintOptions} {l : Checking} {past : List Finding}

theorem new (options : LintOptions) : Records options (.new options ()) [] where
  options := rfl
  holds := each_new _ options ()
  numbered _ h := nomatch h
  distinct := List.Pairwise.nil

theorem enter (hl : Records options l past) (bundled : Option Path) (view : FileView)
    (project : Path × Path) :
    Records options (l.enter bundled view project).2 past := by
  obtain ⟨id, -, he⟩ | ⟨-, ⟨f, -, he⟩ | ⟨s, hs, he⟩⟩ := l.enter_cases bundled view project
  · rwa [he]
  · rwa [he]
  · rw [he]
    refine ⟨hl.options, hl.holds.add (holds_of_newSession hs _) _, fun f hf => ?_, hl.distinct⟩
    obtain ⟨s, hs, hlt⟩ := hl.numbered f hf
    refine ⟨s, ?_, hlt⟩
    rw [add, Array.getElem?_push, if_neg (Nat.ne_of_lt (Array.getElem?_eq_some_iff.mp hs).1)]
    exact hs

/-- A session changes, and finds a list of faults or nothing. -/
theorem setSession (hl : Records options l past) {id : Nat} {s s' : Session.Checking}
    (hs : l.registry.sessions[id]? = some s) (new : Option Finding)
    (hholds : s'.Holds fun p kept text => ⟨id, p, text, kept⟩ ∈ past ++ new.toList)
    (hle : s.made ≤ s'.made)
    (hnew : ∀ f ∈ new, f.session = id ∧ f.faults.id = s.made ∧ s'.made = s.made + 1) :
    Records options (l.setSession id s' ()) (past ++ new.toList) where
  options := hl.options
  holds := by
    have hmore : l.Each fun id s => s.Holds fun p kept text =>
        (⟨id, p, text, kept⟩ : Finding) ∈ past ++ new.toList := fun id s hs =>
      (hl.holds id s hs).imp fun _ _ _ hm => List.mem_append_left _ hm
    exact hmore.setSession hs hholds ()
  numbered f hf := by
    rw [sessions_setSession hs]
    rcases List.mem_append.mp hf with hf | hf
    · obtain ⟨old, hold, hlt⟩ := hl.numbered f hf
      by_cases e : f.session = id
      · rw [e, hs] at hold
        cases hold
        exact ⟨s', if_pos e, Nat.lt_of_lt_of_le hlt hle⟩
      · exact ⟨old, (if_neg e).trans hold, hlt⟩
    · obtain ⟨he, hid, hmade⟩ := hnew f (Option.mem_toList.mp hf)
      exact ⟨s', if_pos he, by omega⟩
  distinct := by
    refine List.pairwise_append.mpr ⟨hl.distinct, ?_, fun f hf g hg hsame => ?_⟩
    · cases new with
      | none => exact List.Pairwise.nil
      | some g => exact List.pairwise_singleton _ g
    · obtain ⟨he, hid, -⟩ := hnew g (Option.mem_toList.mp hg)
      obtain ⟨old, hold, hlt⟩ := hl.numbered f hf
      rw [hsame.trans he, hs] at hold
      cases hold
      omega

/-- **Asking a session** adds what it finds to the records, and what it answers is kept. -/
theorem ask (hl : Records options l past) (bundled : Option Path) (view : FileView) (id : Nat)
    (file : Path) :
    Records options (l.ask bundled view id file).2
        (past ++ (l.findingOf view id file).toList) ∧
      ∀ found, (l.ask bundled view id file).1 = some (.ok found) →
        ∃ s, (l.ask bundled view id file).2.registry.sessions[id]? = some s ∧
          s.found.get? file.normalize.components = some found := by
  obtain ⟨hnone, he⟩ | ⟨s, hs, he⟩ := l.ask_cases bundled view id file
  · rw [he, findingOf, hnone]
    exact ⟨(List.append_nil past).symm ▸ hl, fun found h => by cases h⟩
  · have hnew : l.findingOf view id file = (s.checked view file).map
        fun (text, faults) => ⟨id, file.normalize, text, ⟨s.made, faults⟩⟩ := by
      rw [findingOf, hs]
      rfl
    obtain ⟨hle, hsucc⟩ := Session.made_diagnostics bundled view file s
    have hbefore : s.Holds fun p kept text => (⟨id, p, text, kept⟩ : Finding) ∈
        past ++ (l.findingOf view id file).toList :=
      (hl.holds id s hs).imp fun _ _ _ hm => List.mem_append_left _ hm
    obtain ⟨hholds, hkept⟩ := hbefore.diagnostics bundled view file fun text faults hc => by
      rw [hnew, hc]
      exact List.mem_append_right _ List.mem_cons_self
    rw [he]
    refine ⟨hl.setSession hs _ hholds hle fun f hf => ?_, fun found h => ?_⟩
    · rw [hnew] at hf
      obtain ⟨⟨text, faults⟩, hc, rfl⟩ := Option.map_eq_some_iff.mp hf
      exact ⟨rfl, rfl, hsucc _ hc⟩
    · exact ⟨_, (sessions_setSession hs _ () id).trans (if_pos rfl),
        hkept found (Option.some.inj h)⟩

/-- **Telling** finds nothing, and reports what is told at the lines of a text that is known. -/
theorem tell (hl : Records options l past) {id : Nat} {s : Session.Checking}
    (hs : l.registry.sessions[id]? = some s) {p : Path} {text : Text}
    (hk : s.host.snapshots.known p = some (some text)) {found : List Diagnostic}
    (hd : ∀ d ∈ found, d.IsAbout p.normalize) (view : FileView) (node : Path) :
    let told := l.tell view id node found
    Records options told.2 past ∧
      List.Forall₂ (Report.Renders text) (counted options found) told.1 := by
  have hholds := hl.holds id s hs
  obtain ⟨t, hnotes, htell⟩ := tell_of_known hs hholds.wellFormed hk hd view node
  simp only
  rw [htell, hl.options]
  constructor
  · have h := hl.setSession hs none ((hholds.note hnotes).imp fun _ _ _ hm =>
      List.mem_append_left _ hm) (Nat.le_refl _) fun f hf => by cases hf
    rwa [Option.toList_none, List.append_nil] at h
  · exact List.forall₂_map_right_iff.mpr (List.forall₂_same.mpr fun d hm =>
      (hd d (List.mem_filter.mp hm).1).renders node text)

/-- **A release** finds nothing. -/
theorem release (hl : Records options l past) (bundled : Option Path) (id : Nat) (file : Path) :
    Records options (l.release bundled id file) past := by
  unfold Linter.release
  cases hs : l.registry.sessions[id]? with
  | none => exact hl
  | some s =>
      have h := hl.setSession hs none
        (((hl.holds id s hs).release bundled file).imp fun _ _ _ hm =>
          List.mem_append_left _ hm) (Nat.le_refl _) fun f hf => by cases hf
      rwa [Option.toList_none, List.append_nil] at h

/-- **A visit** adds what it finds to the records, and reports what it is given at the lines of
the text that this was found in.  A visit that is given nothing reports at most a failure. -/
theorem lint (hl : Records options l past) (bundled : Option Path) (view : FileView)
    (file : Path) :
    let visit := l.lintFile (importEngine bundled) view file
    let past' := past ++ (l.finding? bundled view (.lint file)).toList
    Records options visit.2 past' ∧
      match l.answer bundled view file with
      | some (id, found) =>
        ∃ text, ⟨id, file.normalize, text, found⟩ ∈ past' ∧
          List.Forall₂ (Report.Renders text) (counted options found.value) visit.1
      | none => ∀ r ∈ visit.1, r.code = internalCode ∧ r.location = .node file.normalize := by
  have failed : ∀ f : LintError, ∀ r ∈ [Report.onNode file.normalize .error internalCode f.message],
      r.code = internalCode ∧ r.location = .node file.normalize := fun f r h => by
    cases List.mem_singleton.mp h
    exact ⟨rfl, rfl⟩
  rw [lintFile_eq, answer, finding?]
  cases projectOf view file with
  | none => exact ⟨(List.append_nil past).symm ▸ hl, fun r h => absurd h List.not_mem_nil⟩
  | some project =>
      have henter := hl.enter bundled view project
      simp only [Option.bind_some]
      generalize l.enter bundled view project = entered at henter ⊢
      obtain ⟨id, l'⟩ := entered
      cases id with
      | error f => exact ⟨(List.append_nil past).symm ▸ henter, failed f⟩
      | ok id =>
          obtain ⟨hask, hkept⟩ := henter.ask bundled view id file.normalize
          simp only at hask hkept ⊢
          generalize l'.ask bundled view id file.normalize = asked at hask hkept ⊢
          obtain ⟨found, l''⟩ := asked
          cases found with
          | none => exact ⟨hask, fun r h => absurd h List.not_mem_nil⟩
          | some found =>
              cases found with
              | error f => exact ⟨hask, failed f⟩
              | ok found =>
                  obtain ⟨s, hs, hfound⟩ := hkept found rfl
                  obtain ⟨text, hknown, habout, hmem⟩ :=
                    (hask.holds id s hs).found file.normalize found hfound
                  obtain ⟨htold, hreports⟩ := hask.tell hs hknown habout view file.normalize
                  rw [Path.normalize_normalize] at hmem
                  exact ⟨htold, text, hmem, hreports⟩

/-- **One call** adds what it finds to the records. -/
theorem next (hl : Records options l past) (bundled : Option Path) (view : FileView) (c : Call) :
    Records options (l.next bundled view c) (past ++ (l.finding? bundled view c).toList) := by
  cases c with
  | lint file => exact (hl.lint bundled view file).1
  | session config root => exact (List.append_nil past).symm ▸ hl.enter bundled view (config, root)
  | diagnose id file => exact (hl.ask bundled view id file).1
  | release id file => exact (List.append_nil past).symm ▸ hl.release bundled id file

/-- **The records of a run**. -/
theorem after (hl : Records options l past) (bundled : Option Path)
    (run : List (FileView × Call)) :
    Records options (l.after bundled run) (past ++ findings bundled l run) := by
  induction run generalizing l past with
  | nil => exact (List.append_nil past).symm ▸ hl
  | cons c rest ih =>
      obtain ⟨view, c⟩ := c
      have := ih (hl.next bundled view c)
      rwa [List.append_assoc] at this

end Records

/-- **Reports stand in the text that was checked**, at any point of any run, whatever becomes of
the files.

* While a session keeps a list of faults, it knows the text that the list was found in.
* The lists of a session are told apart by their numbers.
* The reports of a visit are on the faults that it is given and that are not ignored, in their
  order.  Each that is about a file has the range of its bytes in the text that the list was
  found in, by this visit or earlier in the run.  All other reports are failures on the file as
  a whole. -/
theorem reports_in_checked_text (options : LintOptions) (run : List (FileView × Call)) :
    let l := after bundled (.new options ()) run
    let past := findings bundled (.new options ()) run
    (∀ id s, l.registry.sessions[id]? = some s → ∀ (p : Path) kept,
        s.found.get? p.normalize.components = some kept →
          ∃ text, (⟨id, p.normalize, text, kept⟩ : Finding) ∈ past ∧
            s.host.snapshots.known p = some (some text)) ∧
      (past.Pairwise fun f g => f.session = g.session → f.faults.id ≠ g.faults.id) ∧
      ∀ view file,
        let reports := (l.lintFile (importEngine bundled) view file).1
        match l.answer bundled view file with
        | some (id, found) =>
          ∃ text, ⟨id, file.normalize, text, found⟩ ∈
              past ++ (l.finding? bundled view (.lint file)).toList ∧
            List.Forall₂ (Report.Renders text) (counted options found.value) reports
        | none => ∀ r ∈ reports, r.code = internalCode ∧ r.location = .node file.normalize := by
  intro l past
  have hl : Records options l past := (Records.new options).after bundled run
  refine ⟨fun id s hs p kept hk => ?_, hl.distinct, fun view file => (hl.lint bundled view file).2⟩
  obtain ⟨text, hknown, -, hmem⟩ := (hl.holds id s hs).found p kept hk
  exact ⟨text, hmem, hknown⟩

end ImportLint.Linter
