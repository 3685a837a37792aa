import ImportLint.Proofs.Resolution.Ownership
import ImportLint.Proofs.Text.Offsets

/-!
# Packages — names in references and in paths

The name of a package is told twice: it is the beginning of a reference up to its first slash, or
up to the second one behind an `@`, and it is what a path has behind its innermost dependency
folder.  The first reading counts bytes, the second one components, and both tell the same name.

* `Specifier.Cuts`: where a reference is cut; `Specifier.cuts_split` says that it is cut there.
* `Specifier.splitByOffsets?`: the same cut, found by offsets; `Cuts.splitByOffsets?_eq` says that
  each of them is a character boundary.
* `packageOfPath_join`: the package of a file below the folder of a package.
* `Specifier.Mangles`: the name of a package below a type root.
* `Specifier.split_lossless`: what the two parts of a reference are, and where its name is found.
-/

namespace ImportLint

open ImportLint.Path (AreNames IsName)

namespace Specifier

/-! ### Where a reference is cut -/

/-- The reference to a package, or to a path inside of it. -/
def spelling (name : Text) (sub : Option Text) : Text :=
  sub.elim name fun sub => name ++ '/' :: sub

/-- How a reference is cut into the name of a package and a path inside of it: at the first slash,
and behind an `@` at the second one. -/
inductive Cuts : Text → Text → Option Text → Prop where
  | whole {name : Text} (hat : name.head? ≠ some '@') (hname : '/' ∉ name) : Cuts name name none
  | inside {name sub : Text} (hat : name.head? ≠ some '@') (hname : '/' ∉ name) :
      Cuts (name ++ '/' :: sub) name (some sub)
  | lone {scope : Text} (hscope : '/' ∉ scope) : Cuts ('@' :: scope) ('@' :: scope) none
  | ofScope {scope name : Text} (hscope : '/' ∉ scope) (hname : '/' ∉ name) :
      Cuts ('@' :: scope ++ '/' :: name) ('@' :: scope ++ '/' :: name) none
  | insideOfScope {scope name sub : Text} (hscope : '/' ∉ scope) (hname : '/' ∉ name) :
      Cuts (('@' :: scope ++ '/' :: name) ++ '/' :: sub) ('@' :: scope ++ '/' :: name) (some sub)

/-- What begins with a name without `@` does not begin with one. -/
theorem head?_ne_at {name sub : Text} (hat : name.head? ≠ some '@') :
    (name ++ '/' :: sub).head? ≠ some '@' := by
  cases name with
  | nil => exact nofun
  | cons c name => exact hat

/-- **A reference is cut** where it should be. -/
theorem cuts_split (s : Text) : Cuts s (split s).1 (split s).2 := by
  by_cases hat : s.head? = some '@'
  · obtain ⟨bare, rfl⟩ := List.head?_eq_some_iff.mp hat
    obtain ⟨hcut, hbare⟩ | ⟨scope, rest, hcut, hscope, rfl⟩ := Text.cutAt_cases '/' bare
    · simp only [split, hcut]
      exact .lone hbare
    · obtain ⟨hcut', hrest⟩ | ⟨name, sub, hcut', hname, rfl⟩ := Text.cutAt_cases '/' rest
      · simp only [split, hcut, hcut']
        exact .ofScope hscope hrest
      · simp only [split, hcut, hcut']
        rw [show '@' :: (scope ++ '/' :: (name ++ '/' :: sub)) =
          ('@' :: scope ++ '/' :: name) ++ '/' :: sub by simp]
        exact .insideOfScope hscope hname
  · rw [split_of_plain hat]
    obtain ⟨hcut, hs⟩ | ⟨name, sub, hcut, hname, rfl⟩ := Text.cutAt_cases '/' s
    · rw [hcut]
      exact .whole hat hs
    · rw [hcut]
      exact .inside (fun h => hat (by rw [List.head?_append, h]; rfl)) hname

namespace Cuts

variable {s name : Text} {sub : Option Text}

/-- Nothing is lost, and nothing but a slash is left out. -/
theorem eq_spelling (h : Cuts s name sub) : s = spelling name sub := by
  cases h <;> rfl

/-- The name is free of slashes, and all of the reference if this is, too. -/
theorem of_plain (h : Cuts s name sub) (hat : s.head? ≠ some '@') :
    '/' ∉ name ∧ (sub = none ↔ '/' ∉ s) := by
  cases h with
  | whole _ hname => simp [hname]
  | inside _ hname => simp [hname]
  | lone _ => exact absurd rfl hat
  | ofScope _ _ => exact absurd rfl hat
  | insideOfScope _ _ => exact absurd rfl hat

/-- Behind an `@` the name may hold one slash. -/
theorem of_scoped (h : Cuts s name sub) (hat : s.head? = some '@') :
    name.count '/' ≤ 1 ∧ (sub = none ↔ s.count '/' ≤ 1) := by
  cases h with
  | whole hplain _ => exact absurd hat hplain
  | inside hplain _ => exact absurd hat (head?_ne_at hplain)
  | lone hscope => simp [List.count_eq_zero.mpr hscope]
  | ofScope hscope hname =>
      simp [List.count_eq_zero.mpr hscope, List.count_eq_zero.mpr hname]
  | insideOfScope hscope hname =>
      simp [List.count_eq_zero.mpr hscope, List.count_eq_zero.mpr hname]

end Cuts

/-! ### The same cut by offsets -/

/-- The two parts of a reference, found by the offsets of its slashes in steps that can fail: a
part is there only if it begins and ends at character boundaries. -/
def splitByOffsets? (s : Text) : Option (Text × Option Text) :=
  match Text.stripStart ['@'] s with
  | some bare =>
    match bare.offsetOf? '/' with
    | some first => do
      let rest ← bare.between? (first + 1) bare.byteLength
      match rest.offsetOf? '/' with
      | some second => do
        let (name, sub) ← s.around? (1 + first + 1 + second)
        some (name, some sub)
      | none => some (s, none)
    | none => some (s, none)
  | none =>
    match s.offsetOf? '/' with
    | some slash => do
      let (name, sub) ← s.around? slash
      some (name, some sub)
    | none => some (s, none)

theorem stripStart_at_eq_none {s : Text} (hat : s.head? ≠ some '@') :
    Text.stripStart ['@'] s = none :=
  Option.eq_none_iff_forall_ne_some.mpr fun rest h =>
    hat (by rw [Text.stripStart_eq_some_iff.mp h]; rfl)

theorem stripStart_at (bare : Text) : Text.stripStart ['@'] ('@' :: bare) = some bare :=
  Text.stripStart_append ['@'] bare

variable {s name : Text} {sub : Option Text}

/-- **No cut fails**: all offsets are character boundaries. -/
theorem Cuts.splitByOffsets?_eq (h : Cuts s name sub) : splitByOffsets? s = some (name, sub) := by
  have hslash : '/'.utf8Size = 1 := rfl
  unfold splitByOffsets?
  cases h with
  | whole hat hname =>
      simp only [stripStart_at_eq_none hat, Text.offsetOf?_eq_none hname]
  | inside hat hname =>
      simp only [stripStart_at_eq_none (head?_ne_at hat), Text.offsetOf?_append hname,
        Text.around?_append hslash, Option.bind_eq_bind, Option.bind_some]
  | lone hscope =>
      simp only [stripStart_at, Text.offsetOf?_eq_none hscope]
  | ofScope hscope hname =>
      simp only [List.cons_append, stripStart_at, Text.offsetOf?_append hscope,
        Text.between?_behind hslash, Text.offsetOf?_eq_none hname, Option.bind_eq_bind,
        Option.bind_some]
  | @insideOfScope scope name sub hscope hname =>
      have hstop : 1 + scope.byteLength + 1 + name.byteLength =
          Text.byteLength ('@' :: scope ++ '/' :: name) := by
        have hat : '@'.utf8Size = 1 := rfl
        simp [hat, hslash]
        omega
      have hbare : ('@' :: scope ++ '/' :: name) ++ '/' :: sub =
          '@' :: (scope ++ '/' :: (name ++ '/' :: sub)) := by simp
      have haround := Text.around?_append hslash ('@' :: scope ++ '/' :: name) sub
      rw [← hstop] at haround
      simp only [hbare, stripStart_at, Text.offsetOf?_append hscope, Text.between?_behind hslash,
        Text.offsetOf?_append hname, Option.bind_eq_bind, Option.bind_some] at haround ⊢
      simp only [haround, Option.bind_some]

/-! ### Ordinary references -/

/-- A reference to a package whose segments can lie in a dependency folder; in a scope it tells the
package, too. -/
structure IsOrdinary (s : Text) : Prop where
  bare : isPath s = false
  segments : ∀ t ∈ Path.segments s, t ≠ [] ∧ t ≠ ['.'] ∧ t ≠ ['.', '.'] ∧ t ≠ dependencyFolder
  scope_and_name : s.head? = some '@' → 2 ≤ (Path.segments s).length

/-- The segments of a reference are those of its two parts. -/
theorem segments_spelling (name : Text) (sub : Option Text) :
    Path.segments (spelling name sub) = Path.segments name ++ sub.elim [] Path.segments := by
  cases sub with
  | none => exact (List.append_nil _).symm
  | some sub => exact Path.segments_append_slash name sub

/-- The segments of the name can be names, other than that of the dependency folder. -/
theorem Cuts.areNames (h : Cuts s name sub) (hs : IsOrdinary s) :
    AreNames (Path.segments name) ∧ dependencyFolder ∉ Path.segments name := by
  have hmem : ∀ t ∈ Path.segments name, t ∈ Path.segments s := fun t ht => by
    rw [h.eq_spelling, segments_spelling]
    exact List.mem_append_left _ ht
  refine ⟨fun t ht => ?_, fun ht => (hs.segments _ (hmem _ ht)).2.2.2 rfl⟩
  obtain ⟨hnil, hdot, hup, -⟩ := hs.segments t (hmem t ht)
  exact Path.isName_of_ne (Path.slash_not_mem_of_mem_segments ht) hnil hdot hup

/-- A scope alone tells no package. -/
theorem not_isOrdinary_of_lone {scope : Text} (hscope : '/' ∉ scope) :
    ¬ IsOrdinary ('@' :: scope) := fun hs => by
  have hlength := hs.scope_and_name rfl
  rw [Path.segments_of_slash_not_mem (by simpa using hscope), List.length_singleton] at hlength
  exact absurd hlength (by decide)

theorem head?_ne_dot (h : isPath s = false) : s.head? ≠ some '.' := fun hdot => by
  rw [isPath, hdot] at h
  cases h

/-- The name of an ordinary reference is that of a package, alone or in a scope. -/
theorem Cuts.isPackageName (h : Cuts s name sub) (hs : IsOrdinary s) :
    IsPackageName (Path.segments name) := by
  have hdot := head?_ne_dot hs.bare
  cases h with
  | whole hat hname =>
      rw [Path.segments_of_slash_not_mem hname]
      exact ⟨hdot, hat⟩
  | inside hat hname =>
      rw [Path.segments_of_slash_not_mem hname]
      refine ⟨fun h => hdot ?_, hat⟩
      rw [List.head?_append, h]
      rfl
  | lone hscope => exact absurd hs (not_isOrdinary_of_lone hscope)
  | @ofScope scope name hscope hname | @insideOfScope scope name _ hscope hname =>
      have hat : '/' ∉ '@' :: scope := by simpa using hscope
      rw [Path.segments_append_slash, Path.segments_of_slash_not_mem hat,
        Path.segments_of_slash_not_mem hname]
      exact rfl

/-! ### Below the type roots -/

/-- The name of a package, and what it becomes below a type root: a scope is made a part of it. -/
inductive Mangles : Text → Text → Prop where
  | plain {name : Text} (hat : name.head? ≠ some '@') : Mangles name name
  | ofScope {scope : Text} (hscope : '/' ∉ scope) (name : Text) :
      Mangles ('@' :: scope ++ '/' :: name) (scope ++ '_' :: '_' :: name)

theorem typesPath_of_plain (hat : s.head? ≠ some '@') : typesPath s = s := by
  obtain ⟨-, ht⟩ | ⟨bare, rfl, -⟩ | ⟨scope, rest, rfl, -⟩ := typesPath_cases s
  · exact ht
  · exact absurd rfl hat
  · exact absurd rfl hat

theorem typesPath_of_scope {scope : Text} (hscope : '/' ∉ scope) (rest : Text) :
    typesPath ('@' :: scope ++ '/' :: rest) = scope ++ '_' :: '_' :: rest := by
  obtain ⟨hat, -⟩ | ⟨bare, hs, hbare, -⟩ | ⟨scope', rest', hs, hscope', ht⟩ :=
    typesPath_cases ('@' :: scope ++ '/' :: rest)
  · exact absurd rfl hat
  · obtain rfl : scope ++ '/' :: rest = bare := (List.cons.inj hs).2
    exact absurd (by simp) hbare
  · -- there is one way to cut a text at its first slash
    have hcut := congrArg (Text.cutAt '/') (List.cons.inj hs).2
    rw [Text.cutAt_append hscope', List.append_eq, Text.cutAt_append hscope] at hcut
    cases hcut
    exact ht

/-- **Below a type root** a reference has its two parts, the first one mangled. -/
theorem Cuts.exists_typesPath (h : Cuts s name sub) (hs : IsOrdinary s) :
    ∃ mangled, Mangles name mangled ∧ typesPath s = spelling mangled sub := by
  have hplain : s.head? ≠ some '@' → name.head? ≠ some '@' →
      ∃ mangled, Mangles name mangled ∧ typesPath s = spelling mangled sub := fun hat hname =>
    ⟨name, .plain hname, (typesPath_of_plain hat).trans h.eq_spelling⟩
  cases h with
  | whole hat hname => exact hplain hat hat
  | inside hat hname => exact hplain (head?_ne_at hat) hat
  | lone hscope => exact absurd hs (not_isOrdinary_of_lone hscope)
  | @ofScope scope name hscope hname =>
      exact ⟨_, .ofScope hscope name, typesPath_of_scope hscope name⟩
  | @insideOfScope scope name sub hscope hname =>
      have hs' : '@' :: scope ++ '/' :: name ++ '/' :: sub =
          '@' :: scope ++ '/' :: (name ++ '/' :: sub) := by simp
      refine ⟨_, .ofScope hscope name, ?_⟩
      rw [hs', typesPath_of_scope hscope]
      simp [spelling]

end Specifier

/-! ### In paths -/

namespace Path

/-- A path that leads down by names, and into no dependency folder. -/
def LeadsDown (tail : Path) : Prop :=
  tail.components = tail.names.map .name ∧ dependencyFolder ∉ tail.names

instance (tail : Path) : Decidable tail.LeadsDown := inferInstanceAs (Decidable (_ ∧ _))

/-- A path of names has no beginning but them. -/
theorem front_eq_nil {q : Path} {ns : List Text} (hq : q.components = ns.map .name) :
    q.front = [] := by
  refine List.eq_nil_iff_forall_not_mem.mpr fun c hc => not_isNamed_of_mem_front hc ?_
  have hmem : c ∈ q.components := by
    rw [components_eq]
    exact List.mem_append_left _ hc
  obtain ⟨n, -, rfl⟩ := List.mem_map.mp (hq ▸ hmem)
  exact areNames_names q n (List.mem_filterMap.mpr ⟨_, hmem, rfl⟩)

/-- **Joining a path of names** adds them. -/
theorem components_join_names {q : Path} {ns : List Text} (hq : q.components = ns.map .name)
    (dir : Path) : (dir.join q).components = dir.components ++ ns.map .name := by
  have hfront := front_eq_nil hq
  rw [components_eq, hfront, List.nil_append] at hq
  rw [components_join_of_front hfront, hq]

/-- A text whose segments can be names is a path of them. -/
theorem components_of_areNames {t : Text} (h : AreNames (segments t)) :
    Path.components ⟨t⟩ = (segments t).map .name := by
  have hsteps := components_ofSteps 0 h
  rwa [ofSteps, steps, List.replicate_zero, List.replicate_zero, List.nil_append, List.nil_append,
    joinSegments_segments] at hsteps

end Path

/-- **The package of a file** below the folder of a package is this package. -/
theorem packageOfPath_join {name : Text} (hname : IsPackageName (Path.segments name))
    (hsegments : AreNames (Path.segments name)) (hfree : dependencyFolder ∉ Path.segments name)
    (root : Path) {tail : Path} (htail : tail.LeadsDown) :
    packageOfPath (((root.join ⟨dependencyFolder⟩).join ⟨name⟩).join tail) = some name := by
  have hcomponents : (((root.join ⟨dependencyFolder⟩).join ⟨name⟩).join tail).components =
      root.components ++
        .name dependencyFolder :: (Path.segments name ++ tail.names).map .name := by
    rw [Path.components_join_names htail.1,
      Path.components_join_names (Path.components_of_areNames hsegments),
      Path.components_join_name root (by decide)]
    simp
  -- behind this dependency folder there is no other one
  have hbelow := Path.belowFolder_eq hcomponents (by simp [hfree, htail.2])
  refine packageOfPath_eq_some_iff.mpr ⟨Path.belowFolder_ne (hbelow ▸ hcomponents), hname, ?_⟩
  rw [hbelow, Path.map_chars_name]
  exact List.prefix_append _ _

/-! ### Both readings -/

namespace Specifier

/-- **A reference and its two parts**, whatever the reference is.

* Its slashes stand at character boundaries, so that the parts can be cut there, and they spell the
  reference.
* The name has no slash, or up to one behind an `@`; there is a path inside of the package if the
  reference has more of them.
* The name of an ordinary reference is told of all files below its folder in any dependency folder,
  and below a type root the reference has the same parts, with the scope made a part of the name. -/
theorem split_lossless (s : Text) :
    ∃ name sub, split s = (name, sub) ∧ splitByOffsets? s = some (name, sub) ∧
      s = spelling name sub ∧
      (s.head? ≠ some '@' → '/' ∉ name ∧ (sub = none ↔ '/' ∉ s)) ∧
      (s.head? = some '@' → name.count '/' ≤ 1 ∧ (sub = none ↔ s.count '/' ≤ 1)) ∧
      (IsOrdinary s →
        (∀ root tail : Path, tail.LeadsDown →
          packageOfPath (((root.join ⟨dependencyFolder⟩).join ⟨name⟩).join tail) = some name) ∧
        ∃ mangled, Mangles name mangled ∧ typesPath s = spelling mangled sub) := by
  have h := cuts_split s
  refine ⟨(split s).1, (split s).2, rfl, h.splitByOffsets?_eq, h.eq_spelling, h.of_plain,
    h.of_scoped, fun hs => ⟨fun root tail htail => ?_, h.exists_typesPath hs⟩⟩
  obtain ⟨hnames, hfree⟩ := h.areNames hs
  exact packageOfPath_join (h.isPackageName hs) hnames hfree root htail

/-- A reference into a package of a scope, with characters of two and more bytes. -/
def accented : Text := "@é/漢/lib/x".toList

theorem split_accented :
    (accented.head? = some '@' ∧ IsOrdinary accented ∧ (Path.ofString "b//c.ts").LeadsDown) ∧
      splitByOffsets? accented = some ("@é/漢".toList, some "lib/x".toList) ∧
      packageOfPath ((((Path.ofString "../a").join ⟨dependencyFolder⟩).join
        ⟨"@é/漢".toList⟩).join (.ofString "b//c.ts")) = some "@é/漢".toList ∧
      ∃ mangled, Mangles "@é/漢".toList mangled ∧
        typesPath accented = spelling mangled (some "lib/x".toList) := by
  have hordinary : IsOrdinary accented := ⟨by decide, by decide, by decide⟩
  have htail : (Path.ofString "b//c.ts").LeadsDown := by decide
  obtain ⟨name, sub, hsplit, hoffsets, -, -, -, hagree⟩ := split_lossless accented
  have hparts : split accented = ("@é/漢".toList, some "lib/x".toList) := by decide
  cases hparts.symm.trans hsplit
  obtain ⟨hpackage, hmangled⟩ := hagree hordinary
  exact ⟨⟨rfl, hordinary, htail⟩, hoffsets, hpackage _ _ htail, hmangled⟩

/-- References that are not ordinary are cut in the same way. -/
example : split "@/".toList = ("@/".toList, none) ∧
    split "//".toList = ([], some "/".toList) := by
  decide

end Specifier

end ImportLint
