import Mathlib.Data.List.DropRight
import ImportLint.Files.Memory
import ImportLint.Proofs.Path.Canonical
import ImportLint.Proofs.Resolution.Canonical

/-!
# Resolution — the package that owns an answer

The package of an external answer is read off the path of the answer: the name that stands behind
the innermost dependency folder, with the name after it if the first one is a scope.  Nothing
makes sure that there is more behind it.  A file that lies in a dependency folder itself is told
to be its own package.

* `Path.belowFolder`: what a path has behind its innermost dependency folder.
* `Path.LiesIn`: a path whose normal form leads into a package of a dependency folder.
* `packageOfPath_eq_some_iff`: the package that is read off a path.
* `Path.liesIn_iff`: it owns the path if the normal form tells the same package and has something
  behind its name.
* `Resolver.packageName_of_answer`: so it is for every answer.
* `Resolver.packageName_besidePackages`: an answer that lies in no package.
-/

namespace ImportLint

/-! ### Behind the innermost dependency folder -/

namespace Path

/-- What a path has behind its innermost dependency folder; all of it if it has none. -/
def belowFolder (p : Path) : List Component :=
  p.components.rtakeWhile (· ≠ .name dependencyFolder)

/-- The normal form of a path leads into the folder of a package, which lies in a dependency
folder, and from there on into no other one. -/
def LiesIn (p : Path) (package : Text) : Prop :=
  ∃ front rest, p.normalize.components =
      front ++ .name dependencyFolder :: (segments package ++ rest).map .name ∧
    rest ≠ [] ∧ dependencyFolder ∉ rest

variable {p : Path}

theorem name_not_mem_belowFolder (p : Path) : .name dependencyFolder ∉ p.belowFolder := fun h => by
  simpa using List.mem_rtakeWhile_imp h

theorem belowFolder_eq {front below : List Component}
    (h : p.components = front ++ .name dependencyFolder :: below)
    (hbelow : .name dependencyFolder ∉ below) : p.belowFolder = below := by
  have hall : ∀ c ∈ below.reverse, decide (c ≠ .name dependencyFolder) = true := fun c hc =>
    decide_eq_true fun e => hbelow (e ▸ List.mem_reverse.mp hc)
  rw [belowFolder, h, List.rtakeWhile, List.reverse_append, List.reverse_cons, List.append_assoc,
    List.takeWhile_append_of_pos hall]
  simp

theorem exists_front (h : p.belowFolder ≠ p.components) :
    ∃ front, p.components = front ++ .name dependencyFolder :: p.belowFolder := by
  have hmem : .name dependencyFolder ∈ p.components := by
    by_contra hnone
    exact h (List.rtakeWhile_eq_self_iff.mpr fun c hc => decide_eq_true fun e => hnone (e ▸ hc))
  obtain ⟨behind, front, hsplit, hbehind⟩ := List.eq_append_cons_of_mem (List.mem_reverse.mpr hmem)
  have hcomponents : p.components = front.reverse ++ .name dependencyFolder :: behind.reverse := by
    rw [← List.reverse_reverse p.components, hsplit]
    simp
  rw [belowFolder_eq hcomponents (by simpa using hbehind)]
  exact ⟨_, hcomponents⟩

theorem belowFolder_ne {front : List Component}
    (h : p.components = front ++ .name dependencyFolder :: p.belowFolder) :
    p.belowFolder ≠ p.components := fun e => by
  have hlength := congrArg List.length (e.trans h)
  simp at hlength
  omega

/-- What follows an item of a list stands in the part of the list that holds the item. -/
theorem suffix_of_append_eq {α : Type} {front below base rest : List α} {x : α}
    (h : front ++ x :: below = base ++ rest) (hx : x ∉ base) : x :: below <:+ rest := by
  rcases List.append_eq_append_iff.mp h with ⟨mid, hbase, hrest⟩ | ⟨mid, -, hrest⟩
  · cases mid with
    | nil => exact hrest ▸ List.suffix_refl _
    | cons y mid =>
        obtain ⟨rfl, -⟩ := List.cons.inj hrest
        exact absurd (hbase ▸ List.mem_append_right _ List.mem_cons_self) hx
  · exact ⟨mid, hrest.symm⟩

/-- What a path has behind a dependency folder is named by its segments. -/
theorem isNamed_of_mem_belowFolder {front : List Component}
    (h : p.components = front ++ .name dependencyFolder :: p.belowFolder) :
    ∀ c ∈ p.belowFolder, IsNamed c := by
  have hname : IsNamed (.name dependencyFolder) := by decide
  have hsuffix := suffix_of_append_eq (h.symm.trans (components_eq p)) fun hm =>
    not_isNamed_of_mem_front hm hname
  exact fun c hc => isNamed_of_mem_named (hsuffix.subset (List.mem_cons_of_mem _ hc))

/-- A normal form is made of names, behind a slash or steps upwards. -/
theorem exists_components_normalize (p : Path) :
    ∃ base, ∃ ns : List Text,
      p.normalize.components = base ++ ns.map .name ∧ ∀ n, .name n ∉ base := by
  cases hp : p.isAbsolute with
  | true =>
      obtain ⟨ns, hns, hnorm⟩ := exists_normalize_eq_ofNames hp
      exact ⟨[.root], ns, by rw [hnorm, components_ofNames hns]; rfl, by simp⟩
  | false =>
      obtain ⟨ups, ns, hns, -, hnorm⟩ := exists_foldComponents_eq_steps hp
      refine ⟨List.replicate ups .parent, ns, by rw [hnorm, components_ofSteps ups hns]; rfl, ?_⟩
      exact fun n hn => nomatch List.eq_of_mem_replicate hn

/-- A normal form has no steps upwards behind a dependency folder. -/
theorem parent_not_mem_belowFolder_normalize {front : List Component}
    (h : p.normalize.components = front ++ .name dependencyFolder :: p.normalize.belowFolder) :
    .parent ∉ p.normalize.belowFolder := by
  obtain ⟨base, ns, hbase, hnone⟩ := exists_components_normalize p
  intro hup
  have hsuffix := suffix_of_append_eq (h.symm.trans hbase) (hnone _)
  have hm := hsuffix.subset (List.mem_cons_of_mem _ hup)
  simp at hm

/-- Names that follow a dependency folder are kept by folding. -/
theorem belowFolder_normalize {front : List Component}
    (h : p.components = front ++ .name dependencyFolder :: p.belowFolder)
    (hup : .parent ∉ p.belowFolder) :
    p.normalize.components =
        foldComponents front ++ .name dependencyFolder :: p.belowFolder ∧
      p.normalize.belowFolder = p.belowFolder := by
  obtain ⟨ns, -, hns⟩ := exists_map_name (isNamed_of_mem_belowFolder h) hup
  have hfold : p.normalize.components =
      foldComponents front ++ .name dependencyFolder :: p.belowFolder := by
    have hnames := foldl_map_name (dependencyFolder :: ns) (front.foldl foldComponent [])
    rw [components_normalize, h, hns, ← List.map_cons (f := Component.name), foldComponents,
      List.foldl_append, hnames, List.reverse_append, List.reverse_reverse]
    rfl
  exact ⟨hfold, belowFolder_eq hfold p.name_not_mem_belowFolder⟩

end Path

/-! ### The package that is read off -/

/-- The segments of the name of a package: one name, or a scope and a name.  Hidden names are
none. -/
def IsPackageName : List Text → Prop
  | [name] => name.head? ≠ some '.' ∧ name.head? ≠ some '@'
  | [scope, _] => scope.head? = some '@'
  | _ => False

/-- The name of a package at the beginning of some names. -/
def leadingPackage : List Text → Option Text
  | [] => none
  | first :: rest =>
    match first.head? with
    | some '.' => none
    | some '@' => rest.head?.map fun name => first ++ '/' :: name
    | _ => some first

theorem leadingPackage_cons (first : Text) (rest : List Text) :
    leadingPackage (first :: rest) =
      if first.head? = some '.' then none
      else if first.head? = some '@' then rest.head?.map fun name => first ++ '/' :: name
      else some first := by
  rw [leadingPackage]
  split <;> simp_all

theorem leadingPackage_eq_some_iff {below : List Text} (hslash : ∀ s ∈ below, '/' ∉ s)
    {package : Text} :
    leadingPackage below = some package ↔
      IsPackageName (Path.segments package) ∧ Path.segments package <+: below := by
  constructor
  · intro h
    obtain _ | ⟨first, rest⟩ := below
    · cases h
    have hfirst := Path.segments_of_slash_not_mem (hslash first List.mem_cons_self)
    rw [leadingPackage_cons] at h
    split at h
    · cases h
    next hdot =>
    split at h
    · next hat =>
      obtain ⟨name, hname, rfl⟩ := Option.map_eq_some_iff.mp h
      obtain ⟨more, rfl⟩ := List.head?_eq_some_iff.mp hname
      have hsecond := Path.segments_of_slash_not_mem
        (hslash name (List.mem_cons_of_mem _ List.mem_cons_self))
      rw [Path.segments_append_slash, hfirst, hsecond]
      exact ⟨hat, more, rfl⟩
    · next hat =>
      cases h
      rw [hfirst]
      exact ⟨⟨hdot, hat⟩, rest, rfl⟩
  · rintro ⟨hname, more, rfl⟩
    have hpackage := Path.joinSegments_segments package
    generalize Path.segments package = ss at *
    unfold IsPackageName at hname
    split at hname
    · next name =>
      rw [List.singleton_append, leadingPackage_cons, if_neg hname.1, if_neg hname.2]
      exact congrArg some hpackage
    · next scope name =>
      rw [List.cons_append, leadingPackage_cons, hname, if_neg (by decide), if_pos rfl]
      exact congrArg some hpackage
    · cases hname

theorem chars_eq_dependencyFolder_iff {c : Component} :
    c.chars = dependencyFolder ↔ c = .name dependencyFolder := by
  cases c with
  | name n => exact ⟨congrArg _, Component.name.inj⟩
  | _ => decide

theorem packageOfPath_eq (p : Path) :
    packageOfPath p =
      if p.belowFolder.length = p.components.length then none
      else leadingPackage (p.belowFolder.map Component.chars) := by
  have hbelow : ((p.components.map Component.chars).reverse.takeWhile
      (· ≠ dependencyFolder)).reverse = p.belowFolder.map Component.chars := by
    rw [Path.belowFolder, List.rtakeWhile, ← List.map_reverse, List.takeWhile_map,
      ← List.map_reverse]
    simp only [Function.comp_def, ne_eq, chars_eq_dependencyFolder_iff]
  rw [packageOfPath]
  simp only [hbelow, List.length_map]
  rfl

/-- **The package that is read off a path**: its name begins what is behind the innermost
dependency folder. -/
theorem packageOfPath_eq_some_iff {p : Path} {package : Text} :
    packageOfPath p = some package ↔
      p.belowFolder ≠ p.components ∧ IsPackageName (Path.segments package) ∧
        Path.segments package <+: p.belowFolder.map Component.chars := by
  have hsuffix : p.belowFolder <:+ p.components := List.rtakeWhile_suffix _ _
  have hlength : p.belowFolder.length = p.components.length ↔ p.belowFolder = p.components :=
    ⟨hsuffix.eq_of_length, congrArg List.length⟩
  rw [packageOfPath_eq]
  split
  · next h => simp [hlength.mp h]
  · next h =>
    have hne : p.belowFolder ≠ p.components := fun e => h (hlength.mpr e)
    obtain ⟨front, hfront⟩ := Path.exists_front hne
    have hslash : ∀ s ∈ p.belowFolder.map Component.chars, '/' ∉ s := by
      intro s hs
      obtain ⟨c, hc, rfl⟩ := List.mem_map.mp hs
      exact (Path.isNamed_of_mem_belowFolder hfront c hc).2
    rw [leadingPackage_eq_some_iff hslash, and_iff_right hne]

/-! ### Files in packages -/

namespace Path

variable {p : Path} {package : Text}

/-- **A file lies in the package that is read off its path** if its normal form tells the same
package and has something behind the package's name. -/
theorem liesIn_iff (h : packageOfPath p = some package) :
    p.LiesIn package ↔
      packageOfPath p.normalize = some package ∧
        (segments package).length < p.normalize.belowFolder.length := by
  obtain ⟨-, hname, hbegins⟩ := packageOfPath_eq_some_iff.mp h
  have hfree : dependencyFolder ∉ segments package := fun hm => by
    obtain ⟨c, hc, hchars⟩ := List.mem_map.mp (hbegins.subset hm)
    rw [chars_eq_dependencyFolder_iff.mp hchars] at hc
    exact p.name_not_mem_belowFolder hc
  constructor
  · rintro ⟨front, rest, hcomponents, hne, hrest⟩
    have hbelow : p.normalize.belowFolder = (segments package ++ rest).map .name :=
      belowFolder_eq hcomponents (by simp [hfree, hrest])
    refine ⟨packageOfPath_eq_some_iff.mpr
      ⟨belowFolder_ne (hbelow ▸ hcomponents), hname, ?_⟩, ?_⟩
    · rw [hbelow, map_chars_name]
      exact List.prefix_append _ _
    · rw [hbelow, List.length_map, List.length_append]
      have := List.length_pos_of_ne_nil hne
      omega
  · rintro ⟨hnormal, hlength⟩
    obtain ⟨hne, -, hbegins⟩ := packageOfPath_eq_some_iff.mp hnormal
    obtain ⟨front, hcomponents⟩ := exists_front hne
    obtain ⟨ns, -, hns⟩ := exists_map_name (isNamed_of_mem_belowFolder hcomponents)
      (parent_not_mem_belowFolder_normalize hcomponents)
    rw [hns, map_chars_name] at hbegins
    obtain ⟨rest, rfl⟩ := hbegins
    refine ⟨front, rest, by rw [← hns]; exact hcomponents, ?_, fun hm => ?_⟩
    · rintro rfl
      rw [hns, List.append_nil, List.length_map] at hlength
      exact Nat.lt_irrefl _ hlength
    · refine p.normalize.name_not_mem_belowFolder ?_
      rw [hns]
      exact List.mem_map_of_mem (List.mem_append_right _ hm)

/-- If a path does not step upwards behind the innermost dependency folder, it has to have
something behind the name itself. -/
theorem liesIn_iff_of_parent_not_mem (h : packageOfPath p = some package)
    (hup : .parent ∉ p.belowFolder) :
    p.LiesIn package ↔ (segments package).length < p.belowFolder.length := by
  obtain ⟨hne, hname, hbegins⟩ := packageOfPath_eq_some_iff.mp h
  obtain ⟨front, hfront⟩ := exists_front hne
  obtain ⟨hcomponents, hbelow⟩ := belowFolder_normalize hfront hup
  have hnormal : packageOfPath p.normalize = some package := packageOfPath_eq_some_iff.mpr
    ⟨belowFolder_ne (hbelow.symm ▸ hcomponents), hname, hbelow.symm ▸ hbegins⟩
  rw [liesIn_iff h, hbelow, and_iff_right hnormal]

end Path

/-! ### Answers -/

namespace Resolver

/-- No target of a request steps upwards. -/
def Request.StepsDown (q : Request) : Prop :=
  ∀ phase, ∀ target ∈ q.targets phase, target.IsRooted True

/-- References that do not step upwards, looked up below normal forms. -/
theorem stepsDown_reference {dir : Path} (hdir : dir.isAbsolute = true) {specifier : Text}
    (hstraight : Specifier.IsStraight specifier) {roots : List Path}
    (hroots : ∀ root ∈ roots, root.isAbsolute = true ∧ root.Same root.normalize)
    {ambient : Option AmbientTypes}
    (hambient : ∀ a ∈ ambient, ∀ root ∈ a.roots,
      root.isAbsolute = true ∧ root.Same root.normalize) :
    (Request.reference dir specifier roots ambient).StepsDown := fun _ _ ht =>
  have h := isRooted_target hdir hroots hambient ht
  ⟨h.1, fun _ => h.2 (Or.inr hstraight)⟩

theorem Request.StepsDown.answer {view : FileView} {r : Resolver} {q : Request}
    (hq : q.StepsDown) {m : ResolvedModule} (h : ((q.run view).run r).1 = .ok (some m)) :
    Component.parent ∉ m.path.components := by
  suffices m.path.IsRooted True from this.2 trivial
  obtain ⟨hit, htyped, rfl⟩ | ⟨-, s, hit, hscript, rfl⟩ := run_cases h
  · obtain ⟨target, ht, _, p, hp, hhit⟩ := answers_lookupFirst .typed _ r hit htyped
    exact isRooted_candidate (isRooted_place (hq _ target ht) hp) hhit
  · obtain ⟨target, ht, _, p, hp, hhit⟩ := answers_lookupFirst .script _ s hit hscript
    exact isRooted_candidate (isRooted_place (hq _ target ht) hp) hhit

/-- **The package of an answer**, whatever the view shows and whatever the resolver remembers.

* It is told of external answers only, and begins what the path has behind its innermost
  dependency folder.
* The file lies in it if and only if the normal form of the path tells the same package and has
  something behind the package's name.
* If the path does not step upwards behind the dependency folder, it is enough that it has
  something behind the name itself: the file must not lie in the dependency folder or in the
  folder of a scope.
* The path does not step upwards if no target of the request does. -/
theorem packageName_of_answer (view : FileView) (r : Resolver) (q : Request)
    {m : ResolvedModule} {package : Text} (h : ((q.run view).run r).1 = .ok (some m))
    (hpackage : m.packageName = some package) :
    m.isExternal = true ∧
      (∃ front rest, m.path.components = front ++ .name dependencyFolder :: m.path.belowFolder ∧
        m.path.belowFolder.map Component.chars = Path.segments package ++ rest) ∧
      (m.path.LiesIn package ↔
        packageOfPath m.path.normalize = some package ∧
          (Path.segments package).length < m.path.normalize.belowFolder.length) ∧
      (Component.parent ∉ m.path.belowFolder →
        (m.path.LiesIn package ↔
          (Path.segments package).length < m.path.belowFolder.length)) ∧
      (q.StepsDown → Component.parent ∉ m.path.components) := by
  obtain ⟨hexternal, howner⟩ : m.isExternal = true ∧ packageOfPath m.path = some package := by
    obtain ⟨hit, -, rfl⟩ | ⟨-, s, hit, -, rfl⟩ := run_cases h <;>
      (simp only [ResolvedModule.new] at hpackage ⊢
       split at hpackage
       · exact ⟨‹_›, hpackage⟩
       · cases hpackage)
  obtain ⟨hne, -, rest, hrest⟩ := packageOfPath_eq_some_iff.mp howner
  obtain ⟨front, hfront⟩ := Path.exists_front hne
  exact ⟨hexternal, ⟨front, rest, hfront, hrest.symm⟩, Path.liesIn_iff howner,
    Path.liesIn_iff_of_parent_not_mem howner, fun hq => hq.answer h⟩

/-- A dependency folder with a package of a scope, and a file beside the packages. -/
def besidePackages : MemoryTree := .ofFiles [
  (.ofString "/p/node_modules/@s/a/b.ts", []), (.ofString "/p/node_modules/x.ts", [])]

/-- A reference to a package, written in the directory of the dependency folder. -/
def fromProject (specifier : String) : Request :=
  .reference (.ofString "/p") specifier.toList [.ofString "/p/node_modules"] none

theorem run_scoped :
    (((fromProject "@s/a/b").run besidePackages.view).run {}).1 =
      .ok (some (.new (.ofString "/p/node_modules/@s/a/b.ts") .typeScript true)) :=
  run_of_first besidePackages.view (.ofString "/p/node_modules/@s/a/b")
    (.ofString "/p/node_modules/@s/a/b.ts", .typeScript) rfl rfl (by cbv) {}

theorem stepsDown_scoped : (fromProject "@s/a/b").StepsDown :=
  stepsDown_reference rfl (by decide) (by decide) fun _ h => nomatch h

/-- A file in a package of a scope lies in the package that is told. -/
theorem packageName_scoped :
    let m : ResolvedModule := .new (.ofString "/p/node_modules/@s/a/b.ts") .typeScript true
    (((fromProject "@s/a/b").run besidePackages.view).run {}).1 = .ok (some m) ∧
      m.packageName = some "@s/a".toList ∧ m.path.LiesIn "@s/a".toList := by
  intro m
  have hpackage : m.packageName = some "@s/a".toList := by decide
  obtain ⟨-, -, -, hlies, hdown⟩ := packageName_of_answer _ _ _ run_scoped hpackage
  have hup : Component.parent ∉ m.path.belowFolder := fun hm =>
    hdown stepsDown_scoped ((List.rtakeWhile_suffix _ _).subset hm)
  exact ⟨run_scoped, hpackage, (hlies hup).mpr (by decide)⟩

/-- **A file beside the packages** is told to be a package of its own, in which it does not
lie. -/
theorem packageName_besidePackages :
    let m : ResolvedModule := .new (.ofString "/p/node_modules/x.ts") .typeScript true
    (((fromProject "x").run besidePackages.view).run {}).1 = .ok (some m) ∧
      m.packageName = some "x.ts".toList ∧ ¬ m.path.LiesIn "x.ts".toList := by
  intro m
  have hpackage : packageOfPath m.path = some "x.ts".toList := by decide
  refine ⟨run_of_first besidePackages.view (.ofString "/p/node_modules/x")
    (.ofString "/p/node_modules/x.ts", .typeScript) rfl rfl (by cbv) {}, hpackage, ?_⟩
  rw [Path.liesIn_iff_of_parent_not_mem hpackage (by decide)]
  decide

end Resolver

end ImportLint
