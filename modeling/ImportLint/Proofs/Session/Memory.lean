import ImportLint.Proofs.Path.Normal
import ImportLint.Proofs.Session.Requests

/-!
# Sessions — memories change no answer

A host keeps answers, the lists of directories to search and the manifests of packages.  The
tables are asked by components, and what they hold was made for one spelling.  So a kept answer
stands for every request with its key because references are seen from normal forms, which
their components tell apart, and because manifests do not depend on the spelling.

* `Host.outcome`: the answer to a reference, told from the files alone.
* `Host.outcome_eq_of_identity`: references with one key have one outcome.
* `Host.Faithful`: whatever a host remembers is what a host without memories would find.
* `Host.resolve_spec`: a host that is faithful answers with the outcome and stays faithful.
* `Host.answers_transparent`: no earlier requests change an answer.
-/

namespace ImportLint.Host

variable {view : FileView}

/-! ### Answers without memories -/

/-- What the resolver is asked for a reference in a directory. -/
def question (h : Host) (directory : Path) (specifier : Text) : Resolver.Request :=
  if Specifier.isPath specifier then .reference directory specifier [] none
  else .reference directory specifier (h.searchPaths.build directory) (some h.ambient)

/-- The answer to a reference in a directory, told from the files alone. -/
def outcome (view : FileView) (h : Host) (directory : Path) (specifier : Text) :
    Except LintError (Option ResolvedModule) :=
  let q := h.question directory specifier
  (view.firstDecisive (q.candidates (Manifest.load view))).map
    (Option.map (moduleAt q.isExternal))

theorem not_isEmpty_of_isPath {specifier : Text} (h : Specifier.isPath specifier = true) :
    specifier.isEmpty = false := by
  cases specifier with
  | nil => cases h
  | cons _ _ => rfl

/-- The outcome of a file reference depends on the path it leads to alone. -/
theorem outcome_of_isPath (h : Host) (directory : Path) {specifier : Text}
    (hp : Specifier.isPath specifier = true) :
    outcome view h directory specifier =
      (view.firstDecisive (Resolver.Request.candidates (Manifest.load view)
        (.target (directory.join ⟨specifier⟩).normalize false))).map
        (Option.map (moduleAt false)) := by
  simp [outcome, question, Resolver.Request.candidates, Resolver.Request.isExternal, hp,
    not_isEmpty_of_isPath hp]

/-- A directory that references are seen from is told by its components. -/
theorem directoryOf_eq_of_same {file file' : Path}
    (h : (directoryOf file).Same (directoryOf file')) : directoryOf file = directoryOf file' :=
  Path.Same.eq_of_normalize h

/-- **References with one key have one outcome.** -/
theorem outcome_eq_of_identity (h : Host) {file file' : Path} {specifier specifier' : Text}
    (hk : (CacheKey.new (directoryOf file) specifier).identity =
      (CacheKey.new (directoryOf file') specifier').identity) :
    outcome view h (directoryOf file) specifier =
      outcome view h (directoryOf file') specifier' := by
  unfold CacheKey.new at hk
  by_cases hp : Specifier.isPath specifier = true
  · by_cases hp' : Specifier.isPath specifier' = true
    · rw [if_pos hp, if_pos hp'] at hk
      rw [outcome_of_isPath h _ hp, outcome_of_isPath h _ hp',
        Path.Same.eq_of_normalize (Prod.mk.inj hk).1]
    · rw [if_pos hp, if_neg hp'] at hk
      cases (Prod.mk.inj hk).2
  · by_cases hp' : Specifier.isPath specifier' = true
    · rw [if_neg hp, if_pos hp'] at hk
      cases (Prod.mk.inj hk).2
    · rw [if_neg hp, if_neg hp'] at hk
      obtain ⟨hd, hs⟩ := Prod.mk.inj hk
      rw [directoryOf_eq_of_same hd, Option.some.inj hs]

/-! ### Faithful memories -/

/-- What a host remembers is what `origin`, a host with the same settings, would find. -/
structure Faithful (view : FileView) (origin h : Host) : Prop where
  ambient : h.ambient = origin.ambient
  build : h.searchPaths.build = origin.searchPaths.build
  roots : ∀ file kept, h.searchPaths.memo.get? (directoryOf file).components = some kept →
    kept.value = origin.searchPaths.build (directoryOf file)
  manifests : Resolver.knows view h.resolver = Manifest.load view
  resolutions : ∀ file specifier kept,
    h.resolutions.get? (.new (directoryOf file) specifier) = some kept →
      outcome view origin (directoryOf file) specifier = .ok (kept.map Shared.value)

/-- A new host has nothing to remember. -/
theorem faithful_new (view : FileView) (config : ProjectConfig) (projectRoot : Path)
    (globals : List Path) (libDir : Option Path) :
    Faithful view (.new view config projectRoot globals libDir)
      (.new view config projectRoot globals libDir) where
  ambient := rfl
  build := rfl
  roots _ _ h := by cases h
  manifests := Resolver.knows_new view
  resolutions _ _ _ h := by cases h

/-! ### One step -/

/-- Putting a question to the resolver of a host. -/
theorem resolver_spec (hc : view.Coherent) {origin h : Host} (hf : Faithful view origin h)
    (q : Resolver.Request) :
    ((q.run view).run h.resolver).1 =
        (view.firstDecisive (q.candidates (Manifest.load view))).map
          (Option.map (moduleAt q.isExternal)) ∧
      Resolver.knows view ((q.run view).run h.resolver).2 = Manifest.load view := by
  obtain ⟨ha, hk⟩ := Resolver.searches_run hc q h.resolver
  rw [hf.manifests] at ha hk
  exact ⟨ha, hk⟩

theorem forDirectory_value {origin h : Host} (hf : Faithful view origin h) (file : Path) :
    (h.searchPaths.forDirectory (directoryOf file)).1.value =
      origin.searchPaths.build (directoryOf file) := by
  unfold SearchPaths.forDirectory
  cases e : h.searchPaths.memo.get? (directoryOf file).components with
  | some kept => exact hf.roots file kept e
  | none => exact congrFun hf.build _

theorem Faithful.forDirectory {origin h : Host} (hf : Faithful view origin h) (file : Path) :
    Faithful view origin
      { h with searchPaths := (h.searchPaths.forDirectory (directoryOf file)).2 } := by
  unfold SearchPaths.forDirectory
  cases e : h.searchPaths.memo.get? (directoryOf file).components with
  | some kept => exact hf
  | none =>
      refine { hf with build := hf.build, roots := fun file' kept hk => ?_ }
      simp only [Table.get?_insert] at hk
      split at hk
      · next hs =>
        cases hk
        rw [directoryOf_eq_of_same hs]
        exact congrFun hf.build _
      · exact hf.roots file' kept hk

/-- Looking a reference up gives its outcome, and no answer is kept. -/
theorem lookup_spec (hc : view.Coherent) {origin h : Host} (hf : Faithful view origin h)
    (file : Path) (specifier : Text) :
    (lookup view h (directoryOf file) specifier).1 =
        outcome view origin (directoryOf file) specifier ∧
      Faithful view origin (lookup view h (directoryOf file) specifier).2 ∧
      (lookup view h (directoryOf file) specifier).2.resolutions = h.resolutions := by
  unfold lookup outcome question
  by_cases hp : Specifier.isPath specifier = true
  · rw [if_pos hp, if_pos hp]
    obtain ⟨ha, hk⟩ := resolver_spec hc hf (.reference (directoryOf file) specifier [] none)
    exact ⟨ha, { hf with manifests := hk }, rfl⟩
  · rw [if_neg hp, if_neg hp]
    obtain ⟨ha, hk⟩ := resolver_spec hc hf (.reference (directoryOf file) specifier
      (h.searchPaths.forDirectory (directoryOf file)).1.value (some h.ambient))
    refine ⟨?_, { hf.forDirectory file with manifests := hk }, rfl⟩
    rw [← forDirectory_value hf, ← hf.ambient]
    exact ha

/-- An answer that is kept serves every reference with its key, and what was kept before serves
as it did. -/
theorem outcome_of_keep {origin h : Host} {file : Path} {specifier : Text}
    {found : Option ResolvedModule}
    (hkept : ∀ file specifier kept,
      h.resolutions.get? (.new (directoryOf file) specifier) = some kept →
        outcome view origin (directoryOf file) specifier = .ok (kept.map Shared.value))
    (ho : outcome view origin (directoryOf file) specifier = .ok found) :
    let run := h.resolutions.countMiss.keep (.new (directoryOf file) specifier) found
    run.1.map Shared.value = found ∧ ∀ file' specifier' kept,
      run.2.get? (.new (directoryOf file') specifier') = some kept →
        outcome view origin (directoryOf file') specifier' = .ok (kept.map Shared.value) := by
  have hv : (found.map fun m => (⟨h.resolutions.entries.size, m⟩ : Shared _)).map
      Shared.value = found := by cases found <;> rfl
  refine ⟨hv, fun file' specifier' kept hk => ?_⟩
  have hk : (h.resolutions.entries.insert _ _).get? _ = some kept := hk
  rw [Table.get?_insert] at hk
  split at hk
  · next hs =>
    cases hk
    rw [outcome_eq_of_identity origin hs, ho]
    exact congrArg Except.ok hv.symm
  · exact hkept file' specifier' kept hk

/-- **A faithful host answers with the outcome, and stays faithful.** -/
theorem resolve_spec (hc : view.Coherent) {origin h : Host} (hf : Faithful view origin h)
    (specifier : Text) (file : Path) :
    ((resolve view specifier file).run h).1.map (Option.map Shared.value) =
        outcome view origin (directoryOf file) specifier ∧
      Faithful view origin ((resolve view specifier file).run h).2 := by
  rw [resolve_run]
  cases e : h.resolutions.get? (.new (directoryOf file) specifier) with
  | some kept => exact ⟨(hf.resolutions file specifier kept e).symm, { hf with }⟩
  | none =>
      obtain ⟨ha, hf', -⟩ := lookup_spec hc hf file specifier
      generalize lookup view h (directoryOf file) specifier = run at ha hf'
      obtain ⟨answer, h'⟩ := run
      obtain rfl : answer = _ := ha
      simp only at hf' ⊢
      cases ho : outcome view origin (directoryOf file) specifier with
      | error f => exact ⟨rfl, { hf' with resolutions := hf.resolutions }⟩
      | ok answer =>
          obtain ⟨hv, hkept⟩ := outcome_of_keep hf.resolutions ho
          exact ⟨congrArg Except.ok hv, { hf' with resolutions := hkept }⟩

/-- The references of a file, one after the other. -/
theorem resolveAll_spec (hc : view.Coherent) {origin : Host} (file : Path)
    (specifiers : List Text) {h : Host} (hf : Faithful view origin h) :
    ((resolveAll view file specifiers).run h).1.map (List.map (Option.map Shared.value)) =
        specifiers.mapM (fun specifier => outcome view origin (directoryOf file) specifier) ∧
      Faithful view origin ((resolveAll view file specifiers).run h).2 := by
  induction specifiers generalizing h with
  | nil => exact ⟨rfl, hf⟩
  | cons specifier rest ih =>
      rw [resolveAll_cons, List.mapM_cons]
      obtain ⟨ha, hf'⟩ := resolve_spec hc hf specifier file
      rw [← ha]
      generalize (resolve view specifier file).run h = run at hf' ⊢
      obtain ⟨found, h'⟩ := run
      cases found with
      | error e => exact ⟨rfl, hf'⟩
      | ok found =>
          obtain ⟨hb, hf''⟩ := ih (h := h') hf'
          change _ = (_ >>= fun others => pure (found.map Shared.value :: others)) ∧ _
          rw [← hb]
          simp only
          generalize (resolveAll view file rest).run h' = run at hf'' ⊢
          obtain ⟨others, h''⟩ := run
          cases others <;> exact ⟨rfl, hf''⟩

/-! ### Runs -/

/-- What a host is asked about the references of files. -/
inductive Call where
  | one (specifier : Text) (file : Path)
  | all (file : Path) (specifiers : List Text)

/-- The host after a call, whether it is answered or fails. -/
def Call.step (view : FileView) (h : Host) : Call → Host
  | .one specifier file => ((resolve view specifier file).run h).2
  | .all file specifiers => ((resolveAll view file specifiers).run h).2

/-- The host after some calls. -/
def afterCalls (view : FileView) (h : Host) (calls : List Call) : Host :=
  calls.foldl (Call.step view) h

/-- The answer to a reference, without the number of the entry that keeps it. -/
def answer (view : FileView) (h : Host) (specifier : Text) (file : Path) :
    Except LintError (Option ResolvedModule) :=
  ((resolve view specifier file).run h).1.map (Option.map Shared.value)

/-- The answers to the references of a file. -/
def answers (view : FileView) (h : Host) (file : Path) (specifiers : List Text) :
    Except LintError (List (Option ResolvedModule)) :=
  ((resolveAll view file specifiers).run h).1.map (List.map (Option.map Shared.value))

theorem Faithful.step (hc : view.Coherent) {origin h : Host} (hf : Faithful view origin h)
    (call : Call) : Faithful view origin (call.step view h) := by
  cases call with
  | one specifier file => exact (resolve_spec hc hf specifier file).2
  | all file specifiers => exact (resolveAll_spec hc file specifiers hf).2

theorem Faithful.afterCalls (hc : view.Coherent) {origin h : Host} (hf : Faithful view origin h)
    (calls : List Call) : Faithful view origin (afterCalls view h calls) := by
  induction calls generalizing h with
  | nil => exact hf
  | cons call rest ih => exact ih (hf.step hc call)

/-- **Memories change no answer.**  Let a host have answered any calls, or failed to.  What it
answers about a reference is what a new host answers; about the references of a file it answers
with one entry for each, as a new host does for that reference alone, or with the first of their
failures; and references with one key are looked up alike. -/
theorem answers_transparent (hc : view.Coherent) (config : ProjectConfig) (projectRoot : Path)
    (globals : List Path) (libDir : Option Path) (earlier : List Call) :
    let new := Host.new view config projectRoot globals libDir
    let used := afterCalls view new earlier
    (∀ specifier file, answer view used specifier file = answer view new specifier file) ∧
      (∀ file specifiers, answers view used file specifiers =
        specifiers.mapM fun specifier => answer view new specifier file) ∧
      ∀ file file' specifier specifier',
        (CacheKey.new (directoryOf file) specifier).identity =
            (CacheKey.new (directoryOf file') specifier').identity →
          (lookup view new (directoryOf file) specifier).1 =
            (lookup view new (directoryOf file') specifier').1 := by
  intro new used
  have hnew : Faithful view new new := faithful_new view config projectRoot globals libDir
  have hused : Faithful view new used := hnew.afterCalls hc earlier
  have fresh : ∀ specifier file,
      answer view new specifier file = outcome view new (directoryOf file) specifier :=
    fun specifier file => (resolve_spec hc hnew specifier file).1
  refine ⟨fun specifier file => ?_, fun file specifiers => ?_, fun file file' _ _ hk => ?_⟩
  · rw [fresh]
    exact (resolve_spec hc hused specifier file).1
  · simp only [fresh]
    exact (resolveAll_spec hc file specifiers hused).1
  · rw [(lookup_spec hc hnew file _).1, (lookup_spec hc hnew file' _).1]
    exact outcome_eq_of_identity new hk

/-- A directory with one source. -/
def oneSource : MemoryTree := .ofFiles [(.ofString "/p/b.ts", [])]

/-- A reference that two other spellings of it have been asked for before. -/
theorem answer_oneSource :
    oneSource.view.Coherent ∧
      answer oneSource.view
          (afterCalls oneSource.view (.new oneSource.view default (.ofString "/p") [] none)
            [.one "../b".toList (.ofString "/p/q/c.ts"),
              .all (.ofString "/p/a.ts") ["lib".toList, "./x/../b".toList]])
          "./b".toList (.ofString "/p//a.ts") =
        .ok (some (.new (.ofString "/p/b.ts") .typeScript false)) := by
  refine ⟨oneSource.coherent, ?_⟩
  rw [(answers_transparent oneSource.coherent default (.ofString "/p") [] none _).1]
  rfl

end ImportLint.Host
