import ImportLint.Proofs.Path.Endings
import ImportLint.Proofs.Resolution.Phases
import ImportLint.Proofs.Text.Parts

/-!
# Resolution — the kind of an answer

A resolver tells the kind of a file from the file's name.  A name that is no more than an ending
has no kind, and there the resolver says script, also where the typed phase found the file.  Such
names come about where an ending is put behind a slash.

* `Path.isBareEnding`: the names without a kind.
* `ofPath_of_ending`: a name with something before its ending has a kind of the ending's phase.
* `kind_of_answer`: the kind of every answer, and the phase that it tells.
-/

namespace ImportLint

/-! ### Names with an ending -/

/-- The endings that are nothing but an extension. -/
def bareEndings : List Text :=
  [".ts".toList, ".tsx".toList, ".js".toList, ".jsx".toList, ".json".toList]

/-- The last name is an ending with nothing before it. -/
def Path.isBareEnding (p : Path) : Bool := p.fileName.any fun name => bareEndings.contains name

theorem Path.extensionOfName_append {base ext : Text} (h : '.' ∉ ext) :
    Path.extensionOfName (base ++ '.' :: ext) = if base.isEmpty then none else some ext := by
  have hrev : '.' ∉ ext.reverse := by simpa using h
  have hcut := Text.cutAt_append hrev base.reverse
  rw [Path.extensionOfName, List.reverse_append, List.reverse_cons, List.append_assoc,
    List.singleton_append, hcut]
  simp

namespace ModuleKind

/-- A name that ends like one of a declaration file. -/
def isDeclarationName (name : Text) : Bool :=
  Text.endsWith ".d.ts".toList name || Text.endsWith ".d.mts".toList name
    || Text.endsWith ".d.cts".toList name

/-- The kind that an extension tells. -/
def ofExtension (ext : Text) : Option ModuleKind :=
  match String.ofList ext with
  | "ts" | "mts" | "cts" => some .typeScript
  | "tsx" => some .tsx
  | "js" | "mjs" | "cjs" => some .javaScript
  | "jsx" => some .jsx
  | "json" => some .json
  | _ => none

theorem ofPath_eq {p : Path} {name : Text} (h : p.fileName = some name) :
    ofPath p =
      if isDeclarationName name then some .declaration
      else (Path.extensionOfName name).bind ofExtension := by
  rw [ofPath, h]
  rfl

theorem ofPath_of_isBareEnding {p : Path} (h : p.isBareEnding = true) : ofPath p = none := by
  unfold Path.isBareEnding at h
  cases hp : p.fileName with
  | none => rw [ofPath, hp]; rfl
  | some name =>
      rw [hp, Option.any_some, List.contains_iff_mem] at h
      rw [ofPath_eq hp]
      simp only [bareEndings, List.mem_cons, List.not_mem_nil, or_false] at h
      rcases h with rfl | rfl | rfl | rfl | rfl <;> rfl

/-- The kind of a file whose name has something before its extension. -/
theorem ofPath_of_extension {p : Path} {base : Text} (ext : Text) (hb : base ≠ [])
    (he : '.' ∉ ext) (hp : p.fileName = some (base ++ '.' :: ext)) :
    ofPath p =
      if isDeclarationName (base ++ '.' :: ext) then some .declaration else ofExtension ext := by
  have hempty : ¬ base.isEmpty = true := by simpa using hb
  rw [ofPath_eq hp, Path.extensionOfName_append he, if_neg hempty, Option.bind_some]

/-- A name that ends in one of a phase's endings, and is not that ending alone, has a kind that
the phase takes. -/
theorem ofPath_of_ending {phase : Phase} {suffix : Text} (hs : suffix ∈ phase.suffixes)
    {p : Path} {base : Text} (hp : p.fileName = some (base ++ suffix))
    (hbare : p.isBareEnding = false) :
    ∃ kind, ofPath p = some kind ∧ phase.accepts kind = true := by
  have hb : suffix ∈ bareEndings → base ≠ [] := by
    rintro hmem rfl
    rw [Path.isBareEnding, hp, Option.any_some, List.nil_append,
      List.contains_iff_mem.mpr hmem] at hbare
    cases hbare
  cases phase with
  | typed =>
      simp only [Phase.suffixes, List.mem_cons, List.not_mem_nil, or_false] at hs
      rcases hs with rfl | rfl | rfl
      · rw [ofPath_of_extension "ts".toList (hb (by decide)) (by decide) hp]
        split
        · exact ⟨.declaration, rfl, rfl⟩
        · exact ⟨.typeScript, rfl, rfl⟩
      · rw [ofPath_of_extension "tsx".toList (hb (by decide)) (by decide) hp]
        split
        · exact ⟨.declaration, rfl, rfl⟩
        · exact ⟨.tsx, rfl, rfl⟩
      · refine ⟨.declaration, ?_, rfl⟩
        rw [ofPath_eq hp, if_pos]
        simp [isDeclarationName, Text.endsWith, Text.stripEnd, Text.stripStart]
  | script =>
      -- the last letters of a script's name are not those of a declaration
      simp only [Phase.suffixes, List.mem_cons, List.not_mem_nil, or_false] at hs
      rcases hs with rfl | rfl | rfl
      · rw [ofPath_of_extension "js".toList (hb (by decide)) (by decide) hp, if_neg]
        · exact ⟨.javaScript, rfl, rfl⟩
        · simp [isDeclarationName, Text.endsWith, Text.stripEnd, Text.stripStart]
      · rw [ofPath_of_extension "jsx".toList (hb (by decide)) (by decide) hp, if_neg]
        · exact ⟨.jsx, rfl, rfl⟩
        · simp [isDeclarationName, Text.endsWith, Text.stripEnd, Text.stripStart]
      · rw [ofPath_of_extension "json".toList (hb (by decide)) (by decide) hp, if_neg]
        · exact ⟨.json, rfl, rfl⟩
        · simp [isDeclarationName, Text.endsWith, Text.stripEnd, Text.stripStart]

end ModuleKind

/-! ### Candidates -/

namespace Resolver

variable {view : FileView}

/-- **The kind of a candidate** is that of its name and one of the phase, but for a name that is
an ending alone. -/
theorem kind_of_mem_candidates {phase : Phase} {p : Path} {hit : Hit}
    (h : hit ∈ Resolver.candidates phase p) :
    (hit.1.isBareEnding = false →
      ModuleKind.ofPath hit.1 = some hit.2 ∧ phase.accepts hit.2 = true) ∧
    (hit.1.isBareEnding = true → ModuleKind.ofPath hit.1 = none ∧ hit.2 = .javaScript) := by
  rw [candidates_eq_map_hitAt] at h
  obtain ⟨q, hq, rfl⟩ := List.mem_map.mp h
  refine ⟨fun hbare => ?_, fun hbare => ?_⟩
  · suffices ∃ kind, ModuleKind.ofPath q = some kind ∧ phase.accepts kind = true by
      obtain ⟨kind, hkind, haccepts⟩ := this
      rw [hitAt, hkind]
      exact ⟨rfl, haccepts⟩
    rcases List.mem_append.mp hq with hitself | hending
    · split at hitself
      · next hany =>
        obtain rfl := List.mem_singleton.mp hitself
        cases hkind : ModuleKind.ofPath q with
        | none => rw [hkind] at hany; cases hany
        | some kind => exact ⟨kind, rfl, by rwa [hkind] at hany⟩
      · cases hitself
    · obtain ⟨suffix, hs, rfl⟩ := List.mem_map.mp hending
      obtain ⟨hslash, hlength⟩ := ending_of_mem_suffixes hs
      exact ModuleKind.ofPath_of_ending hs (p.fileName_withSuffix hslash hlength) hbare
  · have hnone : ModuleKind.ofPath q = none := ModuleKind.ofPath_of_isBareEnding hbare
    exact ⟨hnone, by rw [hitAt, hnone]; rfl⟩

/-! ### Answers -/

/-- **The kind of an answer** is the kind of its file, and typed if and only if the typed phase
found the file.  The exception is a file that is named by an ending alone: it has no kind, and
is answered as a script by both phases. -/
theorem kind_of_answer (view : FileView) (r : Resolver) (q : Request) {m : ResolvedModule}
    (h : ((q.run view).run r).1 = .ok (some m)) :
    (m.path.isBareEnding = false →
      ModuleKind.ofPath m.path = some m.kind ∧
        (m.kind.isTyped = true ↔ typedHit view r q = .ok (some (m.path, m.kind)))) ∧
    (m.path.isBareEnding = true →
      ModuleKind.ofPath m.path = none ∧ m.kind = .javaScript) := by
  obtain ⟨hit, htyped, rfl⟩ | ⟨hnone, s, hit, hscript, rfl⟩ := run_cases h
  · obtain ⟨target, -, -, p, -, hp⟩ := answers_lookupFirst .typed _ r hit htyped
    obtain ⟨hkind, hbare⟩ := kind_of_mem_candidates hp
    refine ⟨fun hb => ?_, hbare⟩
    obtain ⟨hof, haccepts⟩ := hkind hb
    exact ⟨hof, fun _ => htyped, fun _ => haccepts⟩
  · obtain ⟨target, -, -, p, -, hp⟩ := answers_lookupFirst .script _ s hit hscript
    obtain ⟨hkind, hbare⟩ := kind_of_mem_candidates hp
    refine ⟨fun hb => ?_, hbare⟩
    obtain ⟨hof, haccepts⟩ := hkind hb
    refine ⟨hof, fun htyped => ?_, fun htyped => ?_⟩
    · have huntyped : (!hit.2.isTyped) = true := haccepts
      rw [show hit.2.isTyped = true from htyped] at huntyped
      cases huntyped
    · rw [hnone] at htyped
      cases htyped

/-- The declaration that is far from the reference is answered as what it is. -/
theorem kind_farRequest :
    ((farRequest.run farDeclaration.view).run {}).1 =
        .ok (some (.new (.ofString "/p/node_modules/lib/index.d.ts") .declaration true)) ∧
      ModuleKind.ofPath (.ofString "/p/node_modules/lib/index.d.ts") = some .declaration ∧
      typedHit farDeclaration.view {} farRequest =
        .ok (some (.ofString "/p/node_modules/lib/index.d.ts", .declaration)) := by
  have h : ((farRequest.run farDeclaration.view).run {}).1 =
      .ok (some (.new (.ofString "/p/node_modules/lib/index.d.ts") .declaration true)) := by rfl
  obtain ⟨hkind, htyped⟩ := (kind_of_answer farDeclaration.view {} farRequest h).1 rfl
  exact ⟨h, hkind, htyped.mp rfl⟩

/-- A package folder with a file that is named by an ending alone. -/
def namelessSource : MemoryTree := .ofFiles [(.ofString "/r/lib/.ts", [])]

/-- The ending of the typed phase is put behind the slash, and what is found is answered as a
script. -/
theorem kind_of_nameless :
    let q : Request := .reference (.ofString "/p") "lib/".toList [.ofString "/r"] none
    ((q.run namelessSource.view).run {}).1 =
        .ok (some (.new (.ofString "/r/lib/.ts") .javaScript true)) ∧
      ModuleKind.ofPath (.ofString "/r/lib/.ts") = none ∧
      typedHit namelessSource.view {} q =
        .ok (some (.ofString "/r/lib/.ts", .javaScript)) := by
  exact ⟨rfl, rfl, rfl⟩

end Resolver

end ImportLint
