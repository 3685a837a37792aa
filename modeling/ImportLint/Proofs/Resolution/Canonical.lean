import Mathlib
import ImportLint.Files.Disk
import ImportLint.Proofs.Path.Rooted
import ImportLint.Proofs.Resolution.Phases
import ImportLint.Proofs.Text.Parts

/-!
# Resolution — answers in normal form

An answer is always an absolute path.  It is a spelling of its normal form unless the reference
is to a package and steps upwards inside of it: such a reference is joined to the search roots as
it is written.

* `Specifier.IsStraight`: references to packages that do not step upwards.
* `Specifier.typesPath_cases`: their places below the type roots do not either.
* `isRooted_target`, `isRooted_place`, `isRooted_candidate`: from a reference to the files it can
  lead to.
* `answer_canonical`: the answers to all references.
-/

namespace ImportLint

open ImportLint.Path (IsRooted)

/-! ### References to packages -/

namespace Specifier

/-- A reference to a package that does not step upwards: no segment of it is `..`, and neither
is the name that it has below the type roots. -/
def IsStraight (s : Text) : Prop := ['.', '.'] ∉ Path.segments s ∧ s ≠ "@..".toList

instance (s : Text) : Decidable (IsStraight s) := inferInstanceAs (Decidable (_ ∧ _))

theorem split_of_plain {s : Text} (h : s.head? ≠ some '@') :
    split s = match Text.cutAt '/' s with
      | some (name, sub) => (name, some sub)
      | none => (s, none) := by
  unfold split
  split
  · exact absurd rfl h
  · rfl

/-- Below the type roots a reference lies as it is written, but for the `@` of a scope and the
first slash behind it. -/
theorem typesPath_cases (s : Text) :
    s.head? ≠ some '@' ∧ typesPath s = s ∨
      (∃ bare, s = '@' :: bare ∧ '/' ∉ bare ∧ typesPath s = bare) ∨
      ∃ scope rest, s = '@' :: (scope ++ '/' :: rest) ∧ '/' ∉ scope ∧
        typesPath s = scope ++ '_' :: '_' :: rest := by
  by_cases hat : s.head? = some '@'
  · obtain ⟨bare, rfl⟩ := List.head?_eq_some_iff.mp hat
    refine Or.inr ?_
    unfold typesPath split
    obtain ⟨hcut, hslash⟩ | ⟨scope, rest, hcut, hslash, rfl⟩ := Text.cutAt_cases '/' bare
    · exact Or.inl ⟨bare, rfl, hslash, by simp only [hcut]⟩
    · refine Or.inr ⟨scope, rest, rfl, hslash, ?_⟩
      obtain ⟨hrest, -⟩ | ⟨name, sub, hrest, -, rfl⟩ := Text.cutAt_cases '/' rest
      · simp only [hcut, hrest]
      · have hname := Text.cutAt_append hslash name
        simp [hcut, hrest, hname]
  · refine Or.inl ⟨hat, ?_⟩
    have hplain : ∀ (name : Text) (sub : Option Text), name.head? ≠ some '@' →
        split s = (name, sub) →
          typesPath s = sub.elim name fun sub => name ++ '/' :: sub := by
      intro name sub hname hsplit
      unfold typesPath
      rw [hsplit]
      cases sub <;>
        (dsimp only
         split
         · exact absurd rfl hname
         · rfl)
    obtain ⟨hcut, -⟩ | ⟨name, sub, hcut, -, hs⟩ := Text.cutAt_cases '/' s
    · exact hplain s none hat (by rw [split_of_plain hat, hcut])
    · have hname : name.head? ≠ some '@' := fun h => hat (by rw [hs, List.head?_append, h]; rfl)
      rw [hplain name (some sub) hname (by rw [split_of_plain hat, hcut])]
      exact hs.symm

theorem isAbsolute_of_not_isPath {s : Text} (h : isPath s = false) :
    Path.isAbsolute ⟨s⟩ = false := (Bool.or_eq_false_iff.mp h).2

theorem isAbsolute_typesPath {s : Text} (h : isPath s = false) :
    Path.isAbsolute ⟨typesPath s⟩ = false := by
  obtain ⟨-, ht⟩ | ⟨bare, -, hslash, ht⟩ | ⟨scope, rest, -, hslash, ht⟩ := typesPath_cases s
  · rw [ht]
    exact isAbsolute_of_not_isPath h
  · rw [ht]
    exact Path.isAbsolute_of_slash_not_mem hslash
  · rw [ht]
    refine Bool.eq_false_iff.mpr fun ha => ?_
    obtain ⟨cs, hcs⟩ := Path.isAbsolute_iff.mp ha
    cases scope with
    | nil => cases hcs
    | cons c scope =>
        obtain ⟨rfl, -⟩ := List.cons.inj hcs
        exact hslash List.mem_cons_self

theorem IsStraight.typesPath {s : Text} (h : IsStraight s) :
    ['.', '.'] ∉ Path.segments (typesPath s) := by
  obtain ⟨hup, hscope⟩ := h
  obtain ⟨-, ht⟩ | ⟨bare, rfl, hslash, ht⟩ | ⟨scope, rest, rfl, hslash, ht⟩ := typesPath_cases s
  · rwa [ht]
  · rw [ht, Path.segments_of_slash_not_mem hslash, List.mem_singleton]
    rintro rfl
    exact hscope rfl
  · obtain ⟨t, ts, hrest, hsegments⟩ := Path.segments_append (a := scope ++ "__".toList)
      (by simpa using hslash) rest
    rw [ht, show scope ++ '_' :: '_' :: rest = scope ++ "__".toList ++ rest by simp, hsegments]
    rw [← List.cons_append, Path.segments_append_slash, hrest] at hup
    intro hm
    rcases List.mem_cons.mp hm with hfirst | hm
    · -- the first segment holds a low line
      have hlow : '_' ∈ scope ++ "__".toList ++ t := by simp
      rw [← hfirst] at hlow
      revert hlow
      decide
    · exact hup (List.mem_append_right _ (List.mem_cons_of_mem _ hm))

end Specifier

/-! ### From targets to candidates -/

namespace Resolver

variable {c : Prop} {view : FileView}

theorem isRooted_stem {target stem : Path} (h : target.IsRooted c)
    (hs : withoutScriptSuffix target = some stem) : stem.leading.IsRooted c := by
  obtain ⟨name, hname, hs⟩ := Option.bind_eq_some_iff.mp hs
  obtain ⟨bare, hbare, hs⟩ := Option.bind_eq_some_iff.mp hs
  obtain rfl : target.withFileName bare = stem := Option.some.inj hs
  have hslash : '/' ∉ bare := by
    obtain ⟨tail, htail⟩ : ∃ tail, name = bare ++ tail := by
      cases hjs : Text.stripEnd ".js".toList name with
      | some _ => rw [hjs] at hbare; cases hbare; exact ⟨_, Text.stripEnd_eq_some_iff.mp hjs⟩
      | none => rw [hjs] at hbare; exact ⟨_, Text.stripEnd_eq_some_iff.mp hbare⟩
    have hall : '/' ∉ name := (Path.isName_of_fileName hname).2
    exact fun hm => hall (htail ▸ List.mem_append_left tail hm)
  cases hup : target.parent with
  | none =>
      -- a path without a parent has no file name
      obtain h | h := Path.components_of_parent_eq_none hup <;>
        (rw [Path.fileName, h] at hname; cases hname)
  | some up =>
      have hroot := h.parent hup
      rw [Path.withFileName, hname, hup]
      refine hroot.of_same ?_
      exact (Path.components_leading_join (Path.chars_ne_nil_of_isAbsolute hroot.1) hslash).symm

/-- **The places of a target**: up to their last slash they are like the target. -/
theorem isRooted_place {phase : Phase} {m : Option Manifest} {target p : Path}
    (h : target.IsRooted c) (hp : p ∈ places phase m target) : p.leading.IsRooted c := by
  have hindex : Path.IsName "index".toList := by decide
  unfold places at hp
  simp only [List.mem_cons, List.mem_append, List.not_mem_nil, or_false] at hp
  rcases hp with rfl | hstem | hentry | rfl
  · exact h.leading
  · split at hstem
    · exact isRooted_stem h (Option.mem_toList.mp hstem)
    · cases hstem
  · split at hentry
    · next entry _ =>
      have he := IsRooted.normalize c (Path.isAbsolute_join h.1 entry)
      simp only [List.mem_cons, List.not_mem_nil, or_false] at hentry
      rcases hentry with rfl | rfl
      · exact he.leading
      · exact (he.join_name hindex).leading
    · cases hentry
  · exact (h.join_name hindex).leading

theorem isRooted_candidate {phase : Phase} {p : Path} (h : p.leading.IsRooted c)
    {hit : Hit} (hhit : hit ∈ Resolver.candidates phase p) : hit.1.IsRooted c := by
  rw [candidates_eq_map_hitAt] at hhit
  obtain ⟨q, hq, rfl⟩ := List.mem_map.mp hhit
  rcases List.mem_append.mp hq with hitself | hending
  · split at hitself
    · next hany =>
      obtain rfl := List.mem_singleton.mp hitself
      cases hname : q.fileName with
      | none => rw [ModuleKind.ofPath, hname] at hany; cases hany
      | some name => exact h.of_fileName hname
    · cases hitself
  · obtain ⟨suffix, hs, rfl⟩ := List.mem_map.mp hending
    obtain ⟨hslash, hlength⟩ := ending_of_mem_suffixes hs
    exact h.withSuffix hslash hlength

theorem isRooted_target {phase : Phase} {dir : Path} (hdir : dir.isAbsolute = true)
    {specifier : Text} {roots : List Path} {ambient : Option AmbientTypes}
    (hroots : ∀ root ∈ roots, root.isAbsolute = true ∧ root.Same root.normalize)
    (hambient : ∀ a ∈ ambient, ∀ root ∈ a.roots, root.isAbsolute = true ∧ root.Same root.normalize)
    {target : Path} (ht : target ∈ Request.targets phase (.reference dir specifier roots ambient)) :
    target.IsRooted (Specifier.isPath specifier = true ∨ Specifier.IsStraight specifier) := by
  simp only [Request.targets] at ht
  split at ht
  · cases ht
  split at ht
  · rw [List.mem_singleton.mp ht]
    exact IsRooted.normalize _ (Path.isAbsolute_join hdir _)
  split at ht
  · cases ht
  next hpath _ =>
    rw [Bool.not_eq_true] at hpath
    have hstraight : Specifier.isPath specifier = true ∨ Specifier.IsStraight specifier →
        Specifier.IsStraight specifier := fun h => h.resolve_left (by simp [hpath])
    rcases List.mem_append.mp ht with hroot | htypes
    · obtain ⟨root, hmem, rfl⟩ := List.mem_map.mp hroot
      obtain ⟨habs, hnorm⟩ := hroots root hmem
      exact (IsRooted.of_same_normalize _ habs hnorm).join
        (Specifier.isAbsolute_of_not_isPath hpath) fun hc => (hstraight hc).1
    · split at htypes
      · unfold typeTargets at htypes
        split at htypes
        · cases htypes
        · next a =>
          split at htypes
          · obtain ⟨root, hroot, rfl⟩ := List.mem_map.mp htypes
            obtain ⟨habs, hnorm⟩ := hambient a rfl root hroot
            exact (IsRooted.of_same_normalize _ habs hnorm).join
              (Specifier.isAbsolute_typesPath hpath) fun hc => (hstraight hc).typesPath
          · cases htypes
      · cases htypes

/-! ### Answers -/

/-- **Answers in normal form.**  Whatever the view shows, and whatever the resolver remembers:
the answer to a reference is an absolute path, and a spelling of its normal form if the reference
is to a file or does not step upwards. -/
theorem answer_canonical (view : FileView) (r : Resolver) {dir : Path}
    (hdir : dir.isAbsolute = true) (specifier : Text) {roots : List Path}
    (hroots : ∀ root ∈ roots, root.isAbsolute = true ∧ root.Same root.normalize)
    {ambient : Option AmbientTypes}
    (hambient : ∀ a ∈ ambient, ∀ root ∈ a.roots,
      root.isAbsolute = true ∧ root.Same root.normalize)
    {m : ResolvedModule}
    (h : ((resolve view dir specifier roots ambient).run r).1 = .ok (some m)) :
    m.path.isAbsolute = true ∧
      (Specifier.isPath specifier = true ∨ Specifier.IsStraight specifier →
        m.path.Same m.path.normalize) := by
  suffices m.path.IsRooted (Specifier.isPath specifier = true ∨ Specifier.IsStraight specifier)
    from ⟨this.1, this.same_normalize⟩
  have hrun : (((Request.reference dir specifier roots ambient).run view).run r).1 = _ := h
  obtain ⟨hit, htyped, rfl⟩ | ⟨-, s, hit, hscript, rfl⟩ := run_cases hrun
  · obtain ⟨target, ht, _, p, hp, hhit⟩ := answers_lookupFirst .typed _ r hit htyped
    exact isRooted_candidate (isRooted_place (isRooted_target hdir hroots hambient ht) hp) hhit
  · obtain ⟨target, ht, _, p, hp, hhit⟩ := answers_lookupFirst .script _ s hit hscript
    exact isRooted_candidate (isRooted_place (isRooted_target hdir hroots hambient ht) hp) hhit

/-! ### A file under two paths -/

/-- A folder of declarations: a file, and a package folder beside it. -/
def besideFolder : Disk := ⟨[
  (["types".toList], .directory),
  (["types".toList, "lib".toList], .directory),
  (["types".toList, "x.ts".toList], .file [])]⟩

/-- A reference to a package, written in the root directory. -/
def fromTypes (specifier : String) : Request :=
  .reference (.ofString "/") specifier.toList [.ofString "/types"] none

theorem fileExists_of_resolve {d : Disk} {cwd : Option Path} {p : Path} {place : List Text}
    {text : Text} (h : d.resolve cwd p = .ok (place, .file text)) :
    (d.view cwd).fileExists p = .ok true := by
  have hstat : (d.view cwd).stat p = .ok ⟨text.byteLength, true, false⟩ := by
    change d.stat cwd p = _
    rw [Disk.stat, h]
  rw [FileView.fileExists, hstat]

theorem resolve_besideFolder :
    besideFolder.resolve none (.ofString "/types/x.ts") =
        .ok (["types".toList, "x.ts".toList], .file []) ∧
      besideFolder.resolve none (.ofString "/types/lib/../x.ts") =
        .ok (["types".toList, "x.ts".toList], .file []) := by
  constructor <;> cbv

theorem run_straight :
    (((fromTypes "x").run (besideFolder.view none)).run {}).1 =
      .ok (some (.new (.ofString "/types/x.ts") .typeScript true)) :=
  run_of_first (besideFolder.view none) (.ofString "/types/x")
    (.ofString "/types/x.ts", .typeScript) rfl rfl (fileExists_of_resolve resolve_besideFolder.1) {}

theorem run_upwards :
    (((fromTypes "lib/../x").run (besideFolder.view none)).run {}).1 =
      .ok (some (.new (.ofString "/types/lib/../x.ts") .typeScript true)) :=
  run_of_first (besideFolder.view none) (.ofString "/types/lib/../x")
    (.ofString "/types/lib/../x.ts", .typeScript) rfl rfl
    (fileExists_of_resolve resolve_besideFolder.2) {}

/-- A package beside the folder is answered in normal form. -/
theorem answer_besideFolder :
    (((fromTypes "x").run (besideFolder.view none)).run {}).1 =
        .ok (some (.new (.ofString "/types/x.ts") .typeScript true)) ∧
      (Path.ofString "/types/x.ts").Same (Path.ofString "/types/x.ts").normalize := by
  have hroots : ∀ root ∈ [Path.ofString "/types"],
      root.isAbsolute = true ∧ root.Same root.normalize := by decide
  have hambient : ∀ a ∈ (none : Option AmbientTypes), ∀ root ∈ a.roots,
      root.isAbsolute = true ∧ root.Same root.normalize := fun _ h => nomatch h
  refine ⟨run_straight, ?_⟩
  exact (answer_canonical (besideFolder.view none) {} rfl "x".toList hroots hambient
    run_straight).2 (Or.inr (by decide))

/-- A reference that steps upwards inside of a package is answered with the steps: one file has
two paths. -/
theorem answer_upwards :
    ((Path.ofString "/").normalize = .ofString "/" ∧
        (Path.ofString "/types").normalize = .ofString "/types") ∧
      (((fromTypes "x").run (besideFolder.view none)).run {}).1 =
        .ok (some (.new (.ofString "/types/x.ts") .typeScript true)) ∧
      (((fromTypes "lib/../x").run (besideFolder.view none)).run {}).1 =
        .ok (some (.new (.ofString "/types/lib/../x.ts") .typeScript true)) ∧
      besideFolder.resolve none (.ofString "/types/lib/../x.ts") =
        besideFolder.resolve none (.ofString "/types/x.ts") ∧
      ¬ (Path.ofString "/types/lib/../x.ts").Same
        (Path.ofString "/types/lib/../x.ts").normalize := by
  obtain ⟨hx, hup⟩ := resolve_besideFolder
  exact ⟨by decide, run_straight, run_upwards, hup.trans hx.symm, by decide⟩

end Resolver

end ImportLint
