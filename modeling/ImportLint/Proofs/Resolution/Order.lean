import ImportLint.Proofs.Files.Coherence
import ImportLint.Proofs.Resolution.Candidates

/-!
# Resolution — one order of candidates

The searches of a resolver are nested: phases, roots, places, endings.  All of them end at the
first probe that finds a file or fails.  So the answer is that of a single search through the
list of candidates.

* `Resolver.knows`: the manifests as a resolver sees them, remembered or not.
* `Searches`: a look-up answers the first decisive path of a list, and what the resolver knows
  of manifests stays the same.  One lemma for each function.
* `answer_eq_firstDecisive`: the answer to a request after any earlier ones.
-/

namespace ImportLint

variable {α β : Type}

/-- Two requests in a row: the second is put only if the first is answered. -/
theorem run_bind {σ : Type} (m : ExceptT LintError (StateM σ) α)
    (k : α → ExceptT LintError (StateM σ) β) (r : σ) :
    (m >>= k).run r =
      match m.run r with
      | (.ok a, s) => (k a).run s
      | (.error e, s) => (.error e, s) := by
  change (match m.run r with | (a, s) => ExceptT.bindCont k a s) = _
  cases m.run r with
  | mk a s => cases a <;> rfl

namespace Resolver

variable {view : FileView}

/-- The manifest of a directory, as the resolver remembers it or else as it is read. -/
def knows (view : FileView) (r : Resolver) : Manifests := fun dir =>
  (r.manifests.get? dir.components).getD (Manifest.load view dir)

theorem knows_new (view : FileView) : knows view {} = Manifest.load view := rfl

/-! ### Searches -/

/-- A look-up for the first decisive path of a list, told as `f` tells paths.  What is known of
manifests stays the same. -/
def Searches (view : FileView) (f : Path → α) (m : Lookup (Option α))
    (candidates : Manifests → List Path) : Prop :=
  ∀ r : Resolver,
    (m.run r).1 = (view.firstDecisive (candidates (knows view r))).map (Option.map f) ∧
      knows view (m.run r).2 = knows view r

namespace Searches

variable {f : Path → α} {g : Path → β} {c c' : Manifests → List Path}

theorem nothing (view : FileView) (f : Path → α) : Searches view f (pure none) fun _ => [] :=
  fun _ => ⟨rfl, rfl⟩

/-- A search that goes on where another one found nothing. -/
theorem andThen {m : Lookup (Option α)} {k : Option α → Lookup (Option β)}
    (hm : Searches view f m c) (hsome : ∀ p, k (some (f p)) = pure (some (g p)))
    (hnone : Searches view g (k none) c') :
    Searches view g (m >>= k) fun known => c known ++ c' known := by
  intro r
  obtain ⟨ha, hk⟩ := hm r
  rw [run_bind, FileView.firstDecisive_append]
  generalize m.run r = run at ha hk
  obtain ⟨a, s⟩ := run
  obtain rfl : a = _ := ha
  cases view.firstDecisive (c (knows view r)) with
  | error e => exact ⟨rfl, hk⟩
  | ok found =>
      cases found with
      | none => rw [← hk]; exact hnone s
      | some p =>
          change ((k (some (f p))).run s).1 = _ ∧ knows view ((k (some (f p))).run s).2 = _
          rw [hsome p]
          exact ⟨rfl, hk⟩

theorem congr {m : Lookup (Option α)} (hm : Searches view f m c) (h : ∀ known, c known = c' known) :
    Searches view f m c' := by
  intro r
  rw [← h]
  exact hm r

/-- A search whose answer is only told in another way. -/
theorem retold {m : Lookup (Option α)} {k : Option α → Lookup (Option β)}
    (hm : Searches view f m c) (hsome : ∀ p, k (some (f p)) = pure (some (g p)))
    (hnone : k none = pure none) : Searches view g (m >>= k) c := by
  have hk : Searches view g (k none) fun _ => [] := hnone ▸ nothing view g
  exact (hm.andThen hsome hk).congr fun _ => List.append_nil _

end Searches

/-! ### One lemma for each function -/

/-- Asking for a manifest, with the kept ones in front. -/
theorem manifest_eq (dir : Path) (r : Resolver) :
    (manifest view dir).run r = match r.manifests.get? dir.components with
      | some known => (.ok known, r)
      | none => (.ok (Manifest.load view dir),
          { r with manifests := r.manifests.insert dir.components (Manifest.load view dir) }) := by
  unfold manifest
  rw [run_bind]
  change (_ : Lookup (Option Manifest)).run r = _
  cases r.manifests.get? dir.components <;> rfl

/-- Asking for a manifest changes nothing that is known. -/
theorem manifest_run (h : view.Coherent) (dir : Path) (r : Resolver) :
    ((manifest view dir).run r).1 = .ok (knows view r dir) ∧
      knows view ((manifest view dir).run r).2 = knows view r := by
  have hrun : (manifest view dir).run r = _ := manifest_eq dir r
  cases e : r.manifests.get? dir.components with
  | some known =>
      rw [e] at hrun
      rw [hrun, knows, e]
      exact ⟨rfl, rfl⟩
  | none =>
      rw [e] at hrun
      rw [hrun]
      refine ⟨by rw [knows, e]; rfl, ?_⟩
      funext other
      simp only [knows, Table.get?_insert]
      split
      · next hs => rw [hs, e]; exact (h.load hs).symm
      · rfl

theorem Searches.withManifest (h : view.Coherent) {f : Path → α} (dir : Path)
    {k : Option Manifest → Lookup (Option α)} {c : Option Manifest → Manifests → List Path}
    (hk : ∀ m, Searches view f (k m) (c m)) :
    Searches view f (manifest view dir >>= k) fun known => c (known dir) known := by
  intro r
  obtain ⟨ha, hr⟩ := manifest_run h dir r
  rw [run_bind]
  generalize (manifest view dir).run r = run at ha hr
  obtain ⟨a, s⟩ := run
  obtain rfl : a = _ := ha
  rw [← hr]
  exact hk (knows view s dir) s

theorem candidates_eq_map_hitAt (phase : Phase) (p : Path) :
    Resolver.candidates phase p = (spellings phase p).map hitAt := by
  unfold Resolver.candidates spellings
  rw [List.map_append, List.map_map]
  cases e : ModuleKind.ofPath p with
  | none => rfl
  | some kind =>
      by_cases ha : phase.accepts kind = true
      · simp [ha, hitAt, e]
      · simp [ha, hitAt]

theorem firstExisting_map_hitAt (view : FileView) (ps : List Path) :
    firstExisting view (ps.map hitAt) = (view.firstDecisive ps).map (Option.map hitAt) := by
  induction ps with
  | nil => rfl
  | cons p ps ih =>
      rw [List.map_cons, firstExisting]
      change (view.fileExists p >>= fun found => _) = _
      cases e : view.fileExists p with
      | error f => rw [FileView.firstDecisive_cons_of_error view e]; rfl
      | ok found =>
          cases found with
          | true => rw [FileView.firstDecisive_cons_of_present view e]; rfl
          | false => rw [FileView.firstDecisive_cons_of_absent view e, ← ih]; rfl

theorem searches_tryPath (phase : Phase) (p : Path) :
    Searches view hitAt (tryPath view phase p) fun _ => spellings phase p := by
  intro r
  refine ⟨?_, rfl⟩
  rw [← firstExisting_map_hitAt, ← candidates_eq_map_hitAt]
  rfl

/-- What both phases end with: the entry of the target's manifest, and the index file. -/
def tryEntry (view : FileView) (phase : Phase) (target : Path) (m : Option Manifest) :
    Lookup (Option Hit) := do
  if let some m := m then
    if let some entry := phase.entry m then
      let entry := (target.join entry).normalize
      if let some hit ← tryPath view phase entry then return some hit
      if let some hit ← tryPath view phase (entry.join index) then return some hit
  tryPath view phase (target.join index)

theorem searches_entry (phase : Phase) (target : Path) (m : Option Manifest) :
    Searches view hitAt (tryEntry view phase target m)
      fun _ => ((match m.bind phase.entry with
        | some entry =>
          [(target.join entry).normalize, (target.join entry).normalize.join index]
        | none => []) ++ [target.join index]).flatMap (spellings phase) := by
  have last : Searches view hitAt (tryPath view phase (target.join index))
      fun _ => [target.join index].flatMap (spellings phase) :=
    (searches_tryPath phase (target.join index)).congr fun _ => by simp
  cases m with
  | none => exact last
  | some m =>
      simp only [tryEntry, Option.bind_some]
      cases phase.entry m with
      | none => exact last
      | some entry =>
          exact (searches_tryPath phase _).andThen (fun _ => rfl)
            ((searches_tryPath phase _).andThen (fun _ => rfl) last)

theorem searches_lookup (h : view.Coherent) (phase : Phase) (target : Path) :
    Searches view hitAt (lookup view phase target) fun known =>
      targetCandidates known phase target := by
  have tail := Searches.withManifest h target (searches_entry phase target)
  unfold lookup
  cases phase with
  | script =>
      exact Searches.congr (Searches.andThen (searches_tryPath .script target) (fun _ => rfl) tail)
        fun _ => rfl
  | typed =>
      cases e : withoutScriptSuffix target with
      | none =>
          exact Searches.congr
            (Searches.andThen (searches_tryPath .typed target) (fun _ => rfl) tail)
            fun _ => by rw [targetCandidates, places, e]; rfl
      | some stem =>
          exact Searches.congr
            (Searches.andThen (searches_tryPath .typed target) (fun _ => rfl)
              (Searches.andThen (searches_tryPath .typed stem) (fun _ => rfl) tail))
            fun _ => by rw [targetCandidates, places, e]; rfl

theorem searches_lookupFirst (h : view.Coherent) (phase : Phase) (targets : List Path) :
    Searches view hitAt (lookupFirst view phase targets) fun known =>
      targets.flatMap (targetCandidates known phase) := by
  induction targets with
  | nil => exact Searches.nothing view hitAt
  | cons target rest ih =>
      exact Searches.andThen (searches_lookup h phase target) (fun _ => rfl) ih

theorem searches_resolveTarget (h : view.Coherent) (target : Path) (isExternal : Bool) :
    Searches view (moduleAt isExternal) (resolveTarget view target isExternal) fun known =>
      targetCandidates known .typed target ++ targetCandidates known .script target := by
  exact Searches.andThen (searches_lookup h .typed target) (fun _ => rfl)
    (Searches.retold (searches_lookup h .script target) (fun _ => rfl) rfl)

theorem searches_resolvePackage (h : view.Coherent) (specifier : Text) (roots : List Path)
    (ambient : Option AmbientTypes) :
    Searches view (moduleAt true) (resolvePackage view specifier roots ambient) fun known =>
      packageCandidates known specifier roots ambient := by
  have typed := searches_lookupFirst h .typed (roots.map fun root => root.join ⟨specifier⟩)
  have script := searches_lookupFirst h .script (roots.map fun root => root.join ⟨specifier⟩)
  cases ambient with
  | none =>
      exact Searches.andThen typed (fun _ => rfl) (Searches.retold script (fun _ => rfl) rfl)
  | some a =>
      unfold resolvePackage packageCandidates
      dsimp only
      cases a.allows specifier with
      | false =>
          exact Searches.andThen typed (fun _ => rfl) (Searches.retold script (fun _ => rfl) rfl)
      | true =>
          exact Searches.andThen typed (fun _ => rfl)
            (Searches.andThen (searches_lookupFirst h .typed _) (fun _ => rfl)
              (Searches.retold script (fun _ => rfl) rfl))

theorem searches_run (h : view.Coherent) (q : Request) :
    Searches view (moduleAt q.isExternal) (q.run view) q.candidates := by
  cases q with
  | target path isExternal => exact searches_resolveTarget h path isExternal
  | reference dir specifier roots ambient =>
      unfold Request.run Request.candidates Request.isExternal resolve
      by_cases he : specifier.isEmpty = true
      · simp only [he]
        exact Searches.nothing view _
      · by_cases hp : Specifier.isPath specifier = true
        · simp only [he, hp]
          exact searches_resolveTarget h _ false
        · rw [Bool.not_eq_true] at hp
          by_cases hb : Text.startsWith Specifier.builtinScheme specifier = true
          · simp only [he, hp, hb]
            exact Searches.nothing view _
          · simp only [he, hp, hb]
            exact searches_resolvePackage h specifier roots ambient

/-! ### The answer to a request -/

/-- **What is known of manifests is what their files say**, whatever was asked for before. -/
theorem knows_after (h : view.Coherent) (requests : List Request) :
    knows view (after view requests) = Manifest.load view := by
  suffices ∀ r, knows view (requests.foldl (fun r q => ((q.run view).run r).2) r) = knows view r
    from this {}
  induction requests with
  | nil => exact fun _ => rfl
  | cons q rest ih => exact fun r => (ih _).trans (searches_run h q r).2

/-- **Resolution is a search through one list.**  After any earlier requests the answer is the
first decisive candidate, where manifests are read as they stand in the files. -/
theorem answer_eq_firstDecisive (h : view.Coherent) (earlier : List Request) (q : Request) :
    ((q.run view).run (after view earlier)).1 =
      (view.firstDecisive (q.candidates (Manifest.load view))).map
        (Option.map (moduleAt q.isExternal)) := by
  rw [(searches_run h q _).1, knows_after h]

/-- A package with a script near the directory that refers to it and a declaration far from it. -/
def farDeclaration : MemoryTree := .ofFiles [
  (.ofString "/p/src/node_modules/lib/index.js", []),
  (.ofString "/p/node_modules/lib/index.d.ts", [])]

def farRequest : Request :=
  .reference (.ofString "/p/src") "lib".toList
    [.ofString "/p/src/node_modules", .ofString "/p/node_modules"] none

/-- The far declaration shadows the near script, also when asked again. -/
theorem answer_farRequest :
    farDeclaration.view.Coherent ∧
      ((farRequest.run farDeclaration.view).run (after farDeclaration.view [farRequest])).1 =
        .ok (some (moduleAt true (.ofString "/p/node_modules/lib/index.d.ts"))) := by
  refine ⟨farDeclaration.coherent, ?_⟩
  rw [answer_eq_firstDecisive farDeclaration.coherent]
  rfl

end Resolver

end ImportLint
