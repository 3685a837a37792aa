import ImportLint.Proofs.Resolution.Order

/-!
# Resolution — a request in two phases

Whatever is asked for, the resolver looks up a list of targets in the typed phase and, if
nothing is found at any of them, a list of targets in the script phase.  What a phase finds is a
candidate of the phase for a place of one of the targets.  Both hold in every view, also in one
that does not show the same manifest for all spellings of a directory.

* `Request.targets`, `run_eq_inPhases`: the two phases of a request.
* `run_cases`: the phase that answered.
* `Answers`: what is true of all that a look-up can find.  One lemma for each function.
-/

namespace ImportLint.Resolver

variable {α β : Type} {view : FileView}

/-! ### Targets -/

/-- The targets of a package below the type roots, if it may be looked up there. -/
def typeTargets (specifier : Text) : Option AmbientTypes → List Path
  | none => []
  | some a =>
    if a.allows specifier then a.roots.map fun root => root.join ⟨Specifier.typesPath specifier⟩
    else []

/-- The targets that a phase takes a request for, in order.  Type roots are for the typed phase
alone. -/
def Request.targets (phase : Phase) : Request → List Path
  | .target path _ => [path]
  | .reference dir specifier roots ambient =>
    if specifier.isEmpty then []
    else if Specifier.isPath specifier then [(dir.join ⟨specifier⟩).normalize]
    else if Text.startsWith Specifier.builtinScheme specifier then []
    else
      roots.map (fun root => root.join ⟨specifier⟩)
        ++ if phase = .typed then typeTargets specifier ambient else []

/-- The script phase after the typed phase. -/
def inPhases (view : FileView) (typed script : List Path) (isExternal : Bool) :
    Lookup (Option ResolvedModule) := do
  if let some (path, kind) ← lookupFirst view .typed typed then
    return some (.new path kind isExternal)
  if let some (path, kind) ← lookupFirst view .script script then
    return some (.new path kind isExternal)
  return none

theorem lookupFirst_append (phase : Phase) (first rest : List Path) :
    lookupFirst view phase (first ++ rest) =
      lookupFirst view phase first >>= fun
        | some hit => pure (some hit)
        | none => lookupFirst view phase rest := by
  induction first with
  | nil => rw [List.nil_append, lookupFirst, pure_bind]
  | cons target first ih =>
      rw [List.cons_append, lookupFirst, lookupFirst, bind_assoc]
      refine congrArg _ (funext fun found => ?_)
      cases found with
      | none => exact ih
      | some hit => rw [pure_bind]

theorem lookupFirst_singleton (phase : Phase) (target : Path) :
    lookupFirst view phase [target] = lookup view phase target := by
  rw [lookupFirst]
  refine Eq.trans (congrArg _ (funext fun found => ?_)) (bind_pure _)
  cases found <;> rfl

theorem resolveTarget_eq_inPhases (target : Path) (isExternal : Bool) :
    resolveTarget view target isExternal = inPhases view [target] [target] isExternal := by
  rw [inPhases, lookupFirst_singleton, lookupFirst_singleton]
  rfl

theorem resolvePackage_eq_inPhases (specifier : Text) (roots : List Path)
    (ambient : Option AmbientTypes) :
    resolvePackage view specifier roots ambient =
      inPhases view
        (roots.map (fun root => root.join ⟨specifier⟩) ++ typeTargets specifier ambient)
        (roots.map fun root => root.join ⟨specifier⟩) true := by
  rw [resolvePackage, inPhases, lookupFirst_append, bind_assoc]
  refine congrArg _ (funext fun found => ?_)
  cases found with
  | some hit => rw [pure_bind]
  | none =>
      unfold typeTargets
      cases ambient with
      | none => rfl
      | some a =>
          dsimp only
          cases a.allows specifier <;> rfl

/-- **A request is its two phases**, the typed one first. -/
theorem run_eq_inPhases (q : Request) :
    q.run view = inPhases view (q.targets .typed) (q.targets .script) q.isExternal := by
  cases q with
  | target path isExternal => exact resolveTarget_eq_inPhases path isExternal
  | reference dir specifier roots ambient =>
      unfold Request.run Request.targets Request.isExternal resolve
      by_cases he : specifier.isEmpty = true
      · simp only [he]
        rfl
      · by_cases hp : Specifier.isPath specifier = true
        · simp only [he, hp]
          exact resolveTarget_eq_inPhases _ false
        · rw [Bool.not_eq_true] at hp
          by_cases hb : Text.startsWith Specifier.builtinScheme specifier = true
          · simp only [he, hp, hb]
            rfl
          · simp only [he, hp, hb]
            refine (resolvePackage_eq_inPhases specifier roots ambient).trans ?_
            simp

/-- What the typed phase finds for a request that is put to a resolver. -/
def typedHit (view : FileView) (r : Resolver) (q : Request) : Except LintError (Option Hit) :=
  ((lookupFirst view .typed (q.targets .typed)).run r).1

/-- **The phase that answered**: the typed one, or the script phase after a typed phase that
found nothing. -/
theorem run_cases {r : Resolver} {q : Request} {m : ResolvedModule}
    (h : ((q.run view).run r).1 = .ok (some m)) :
    (∃ hit, typedHit view r q = .ok (some hit) ∧ m = .new hit.1 hit.2 q.isExternal) ∨
      typedHit view r q = .ok none ∧
        ∃ s hit, ((lookupFirst view .script (q.targets .script)).run s).1 = .ok (some hit) ∧
          m = .new hit.1 hit.2 q.isExternal := by
  rw [run_eq_inPhases, inPhases, run_bind] at h
  rw [typedHit]
  generalize (lookupFirst view .typed (q.targets .typed)).run r = run at h
  obtain ⟨e | found, s⟩ := run
  · cases h
  · cases found with
    | some hit => exact Or.inl ⟨hit, rfl, by cases h; rfl⟩
    | none =>
        refine Or.inr ⟨rfl, s, ?_⟩
        dsimp only at h
        rw [run_bind] at h
        generalize (lookupFirst view .script (q.targets .script)).run s = run at h
        obtain ⟨e | found, t⟩ := run
        · cases h
        · cases found with
          | some hit => exact ⟨hit, rfl, by cases h; rfl⟩
          | none => cases h

/-- The first candidate of the first target is the answer if a file stands there. -/
theorem run_of_first (view : FileView) (target : Path) (hit : Hit) {q : Request}
    {rest : List Path} {more : List Hit} (htargets : q.targets .typed = target :: rest)
    (hhits : Resolver.candidates .typed target = hit :: more)
    (hfile : view.fileExists hit.1 = .ok true) (r : Resolver) :
    ((q.run view).run r).1 = .ok (some (.new hit.1 hit.2 q.isExternal)) := by
  have hfirst : (tryPath view .typed target).run r = (.ok (some hit), r) := by
    change (firstExisting view (Resolver.candidates .typed target), r) = _
    rw [hhits, firstExisting, hfile]
    rfl
  have hlookup : (lookup view .typed target).run r = (.ok (some hit), r) := by
    rw [lookup, run_bind, hfirst]
    rfl
  rw [run_eq_inPhases, inPhases, htargets, run_bind, lookupFirst, run_bind, hlookup]
  rfl

/-! ### What a look-up can find -/

/-- All that a look-up finds, from any state, has a property. -/
def Answers (m : Lookup (Option α)) (P : α → Prop) : Prop :=
  ∀ r a, (m.run r).1 = .ok (some a) → P a

namespace Answers

variable {P Q : α → Prop}

theorem nothing (P : α → Prop) : Answers (pure none) P := fun _ _ h => nomatch h

theorem mono {m : Lookup (Option α)} (hm : Answers m P) (h : ∀ a, P a → Q a) : Answers m Q :=
  fun r a ha => h a (hm r a ha)

/-- A look-up that begins with a question, whatever the answer to it is. -/
theorem bind {m : Lookup β} {k : β → Lookup (Option α)} (hk : ∀ b, Answers (k b) P) :
    Answers (m >>= k) P := by
  intro r a h
  rw [run_bind] at h
  generalize m.run r = run at h
  obtain ⟨e | b, s⟩ := run
  · cases h
  · exact hk b s a h

/-- A look-up that goes on where another one found nothing. -/
theorem andThen {m : Lookup (Option α)} {k : Option α → Lookup (Option α)} (hm : Answers m P)
    (hsome : ∀ a, k (some a) = pure (some a)) (hnone : Answers (k none) P) :
    Answers (m >>= k) P := by
  intro r a h
  have ha := hm r
  rw [run_bind] at h
  generalize m.run r = run at h ha
  obtain ⟨e | found, s⟩ := run
  · cases h
  · cases found with
    | none => exact hnone s a h
    | some b =>
        dsimp only at h
        rw [hsome b] at h
        cases h
        exact ha a rfl

end Answers

theorem answers_tryPath (phase : Phase) (p : Path) :
    Answers (tryPath view phase p) (· ∈ Resolver.candidates phase p) := by
  intro r hit h
  have hfirst : firstExisting view (Resolver.candidates phase p) = .ok (some hit) := h
  generalize Resolver.candidates phase p = hits at hfirst ⊢
  induction hits with
  | nil => cases hfirst
  | cons first rest ih =>
      rw [firstExisting] at hfirst
      cases he : view.fileExists first.1 with
      | error e => rw [he] at hfirst; cases hfirst
      | ok found =>
          rw [he] at hfirst
          cases found with
          | true => cases hfirst; exact List.mem_cons_self
          | false => exact List.mem_cons_of_mem _ (ih hfirst)

/-- A phase's endings are more than dots, and hold no slash. -/
theorem ending_of_mem_suffixes {phase : Phase} {suffix : Text} (h : suffix ∈ phase.suffixes) :
    '/' ∉ suffix ∧ 3 ≤ suffix.length := by
  cases phase <;>
    (simp only [Phase.suffixes, List.mem_cons, List.not_mem_nil, or_false] at h
     rcases h with rfl | rfl | rfl <;> decide)

/-- A candidate of a phase for one of the places of a target, under some manifest. -/
def FoundAt (phase : Phase) (target : Path) (hit : Hit) : Prop :=
  ∃ m, ∃ p ∈ places phase m target, hit ∈ Resolver.candidates phase p

theorem answers_place {phase : Phase} {target p : Path} (m : Option Manifest)
    (hp : p ∈ places phase m target) :
    Answers (tryPath view phase p) (FoundAt phase target) :=
  (answers_tryPath phase p).mono fun _ hit => ⟨m, p, hp, hit⟩

theorem answers_entry (phase : Phase) (target : Path) (m : Option Manifest) :
    Answers (tryEntry view phase target m) (FoundAt phase target) := by
  have last : Answers (tryPath view phase (target.join index)) (FoundAt phase target) :=
    answers_place none (by simp [places])
  cases m with
  | none => exact last
  | some m =>
      simp only [tryEntry]
      cases he : phase.entry m with
      | none => exact last
      | some entry =>
          have hentry : (target.join entry).normalize ∈ places phase (some m) target ∧
              (target.join entry).normalize.join index ∈ places phase (some m) target := by
            simp [places, he]
          exact Answers.andThen (answers_place (some m) hentry.1) (fun _ => rfl)
            (Answers.andThen (answers_place (some m) hentry.2) (fun _ => rfl) last)

theorem answers_lookup (phase : Phase) (target : Path) :
    Answers (lookup view phase target) (FoundAt phase target) := by
  have itself : Answers (tryPath view phase target) (FoundAt phase target) :=
    answers_place none (by simp [places])
  have tail : Answers (manifest view target >>= tryEntry view phase target)
      (FoundAt phase target) := Answers.bind (answers_entry phase target)
  unfold lookup
  cases phase with
  | script => exact Answers.andThen itself (fun _ => rfl) tail
  | typed =>
      cases e : withoutScriptSuffix target with
      | none => exact Answers.andThen itself (fun _ => rfl) tail
      | some stem =>
          exact Answers.andThen itself (fun _ => rfl)
            (Answers.andThen (answers_place none (by simp [places, e])) (fun _ => rfl) tail)

theorem answers_lookupFirst (phase : Phase) (targets : List Path) :
    Answers (lookupFirst view phase targets) fun hit =>
      ∃ target ∈ targets, FoundAt phase target hit := by
  induction targets with
  | nil => exact Answers.nothing _
  | cons target rest ih =>
      refine Answers.andThen ((answers_lookup phase target).mono fun hit h => ?_) (fun _ => rfl)
        (ih.mono fun hit h => ?_)
      · exact ⟨target, List.mem_cons_self, h⟩
      · obtain ⟨t, ht, h⟩ := h
        exact ⟨t, List.mem_cons_of_mem _ ht, h⟩

end ImportLint.Resolver
