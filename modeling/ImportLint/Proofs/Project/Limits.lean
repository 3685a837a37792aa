import ImportLint.Proofs.Files.Runs
import ImportLint.Proofs.Json.Relaxed
import ImportLint.Proofs.Project.Enumeration

/-!
# Projects — patterns that are too large

A pattern that is a plain text is looked up in a table when a config is loaded.  Expanded to all
that is below a directory it needs an automaton, with a state for each byte of its text.  So a
config can be loaded whose rules are refused when its files are listed.

* `ofPatterns_of_large`: a directory with a long name makes the rules too large.
* `parse_longName`: a config with such a pattern can be loaded.
* `scriptFiles_oversized`: the boundary, a config that is left without the files of its walk.
-/

namespace ImportLint

open Glob (belowTokens)
open ImportLint.Path (AreNames IsName ofNames joinSegments)

/-! ### Rules that are refused -/

/-- Each character of a text takes a state. -/
theorem Glob.length_le_statesOf (t : Text) (ts : List Token) :
    t.length ≤ statesOf (t.map .literal ++ ts) := by
  induction t with
  | nil => exact Nat.zero_le _
  | cons c cs ih =>
      have hc : 0 < c.utf8Size := c.utf8Size_pos
      rw [List.length_cons, List.map_cons, List.cons_append, statesOf, tokenStates]
      omega

theorem Glob.statesOf_le_statesOfAll {patterns : List (List Token)} {ts : List Token}
    (h : ts ∈ patterns) : statesOf ts ≤ statesOfAll patterns := by
  induction patterns with
  | nil => cases h
  | cons us patterns ih =>
      rw [statesOfAll]
      rcases List.mem_cons.mp h with rfl | hrest
      · exact Nat.le_add_right _ _
      · exact Nat.le_add_left_of_le (ih hrest)

theorem Glob.isTabled_literal (t : Text) : isTabled (t.map .literal) = true := by
  have hall : (t.map Token.literal).all isLiteral = true := by simp [isLiteral]
  cases t with
  | nil => rfl
  | cons c cs => exact hall

/-- All that is below a directory is compiled with the others. -/
theorem Glob.below_isTabled (t : Text) :
    isTabled (t.map .literal ++ belowTokens) = false ∧
      endsWithExtension (t.map .literal ++ belowTokens) = false := by
  constructor
  · cases t with
    | nil => rfl
    | cons c cs =>
        change ((cs.map Token.literal ++ belowTokens).all isLiteral) = false
        rw [List.all_append]
        exact Bool.and_false _
  · rw [endsWithExtension, List.reverse_append]
    rfl

namespace SetCompiler

variable {rules : List GlobRule}

/-- Rules that are looked up in tables are never refused. -/
theorem refusal_standard_eq_none (h : ∀ rule ∈ rules, Glob.isTabled rule.tokens = true) :
    standard.refusal rules = none := by
  have hnone : (rules.map GlobRule.tokens).filter (!Glob.isTabled ·) = [] := by
    simpa [List.filter_eq_nil_iff] using h
  simp only [standard, automata, hnone]
  rfl

/-- A large rule among those that are compiled together is refused. -/
theorem refusal_standard_of_mem {rule : GlobRule} (h : rule ∈ rules)
    (htabled : Glob.isTabled rule.tokens = false)
    (hextension : Glob.endsWithExtension rule.tokens = false)
    (hlarge : sizeLimit < stateSize * Glob.statesOf rule.tokens) :
    standard.refusal rules = some "error building NFA" := by
  have hmem : rule.tokens ∈ ((rules.map GlobRule.tokens).filter (!Glob.isTabled ·)).filter
      (!Glob.endsWithExtension ·) :=
    List.mem_filter.mpr ⟨List.mem_filter.mpr ⟨List.mem_map_of_mem h, by rw [htabled]; rfl⟩,
      by rw [hextension]; rfl⟩
  have hstates := Nat.mul_le_mul_left stateSize (Glob.statesOf_le_statesOfAll hmem)
  simp only [standard, automata, List.partition_eq_filter_filter]
  refine if_pos (List.any_eq_true.mpr ⟨_, List.mem_cons_self, ?_⟩)
  exact decide_eq_true (hlarge.trans_le hstates)

end SetCompiler

namespace ProjectConfig

open SourceFilter (ofPatterns)

variable {c : ProjectConfig} {included : List Text} {isDirectory : Path → Bool}

/-- **A directory with a long name** makes the rules of a project too large, if it is included by
its name in a config that was loaded. -/
theorem ofPatterns_of_large {configPath : Path} {text : Text}
    (hparse : parse configPath text = .ok c) (hincluded : c.included = some included)
    {rs : List Text} (hroot : c.rootDir = ofNames rs) (hrs : AreNames rs) {pattern : Text}
    (hpattern : pattern ∈ included) {ds : List Text} (hne : ds ≠ [])
    (hds : NamesDirectory c.rootDir isDirectory pattern ds)
    (hlarge : SetCompiler.sizeLimit < SetCompiler.stateSize * (joinSegments ds).length) :
    ofPatterns c.rootDir isDirectory included c.excluded =
      .error (.refused "error building NFA") := by
  obtain ⟨rules, hrules⟩ := exists_allRules hparse hincluded isDirectory
  obtain ⟨taken, left, htaken, -, rfl⟩ := SourceFilter.allRules_eq_ok_iff.mp hrules
  have hanchor := SourceFilter.anchor_of_names hrs (hroot ▸ hds)
  rw [if_neg hne, ← hroot] at hanchor
  have hline : GlobRule.ofLine .refused ('/' :: (joinSegments ds ++ '/' :: everything)) = _ :=
    GlobRule.ofLine_directory false hds.plain
  have hrule := (SourceFilter.mem_rulesOf htaken _).mpr ⟨pattern, hpattern, _, hanchor, hline⟩
  -- the expanded pattern is one of those that share an automaton, and too large by itself
  obtain ⟨htabled, hextension⟩ := Glob.below_isTabled (joinSegments ds)
  have hstates := Nat.mul_le_mul_left SetCompiler.stateSize
    (Glob.length_le_statesOf (joinSegments ds) belowTokens)
  have hrefused := SetCompiler.refusal_standard_of_mem (List.mem_append_left left hrule) htabled
    hextension (hlarge.trans_le hstates)
  rw [SourceFilter.ofPatterns_of_allRules hrules, hrefused]

end ProjectConfig

/-! ### Configs of plain patterns -/

open Relaxed (IsPlain pieces recordText)

theorem expectStrings_pieces (ts : List Text) :
    expectStrings (.array (ts.map fun t => .string (pieces t))) = .ok (some ts) := by
  change (Relaxed.expectList Relaxed.expectString _).map some = _
  rw [Relaxed.expectList_pieces]
  rfl

/-- A config with two lists of patterns. -/
def patternsText (included excluded : List Text) : Text :=
  recordText [("include".toList, included), ("exclude".toList, excluded)]

example : patternsText ["a.ts".toList, "b".toList] [] =
    "\x7b\"include\":[\"a.ts\",\"b\"],\"exclude\":[]\x7d".toList := by decide

theorem WrittenConfig.ofText_patternsText {included excluded : List Text}
    (hincluded : ∀ p ∈ included, IsPlain p) (hexcluded : ∀ p ∈ excluded, IsPlain p) :
    WrittenConfig.ofText (patternsText included excluded) =
      .ok { included := some included, excluded := some excluded } := by
  have hplain : ∀ m ∈ [("include".toList, included), ("exclude".toList, excluded)],
      Relaxed.ArePlain m := by
    simp only [List.forall_mem_cons]
    have hinclude : IsPlain "include".toList := List.all_eq_true.mp (by cbv)
    have hexclude : IsPlain "exclude".toList := List.all_eq_true.mp (by cbv)
    exact ⟨⟨hinclude, hincluded⟩, ⟨hexclude, hexcluded⟩,
      fun _ h => absurd h List.not_mem_nil⟩
  unfold WrittenConfig.ofText patternsText
  rw [Relaxed.parse_recordText hplain]
  simp only [List.map_cons, List.map_nil, Relaxed.memberForm, Relaxed.expectRecord]
  -- the members are read in the order of the text, each by its field of the record
  rw [Relaxed.readMembers_pieces (k := "include".toList) rfl rfl]
  simp only [expectStrings_pieces]
  change Except.mapError _ (Relaxed.readMembers WrittenConfig.fields _ _ _) = _
  rw [Relaxed.readMembers_pieces (k := "exclude".toList) rfl rfl]
  simp only [expectStrings_pieces]
  rfl

namespace ProjectConfig

open SourceFilter (allRules ofPatterns rulesOf)

/-- **A config with two lists of patterns** describes the project with these patterns, if they make
a filter as long as nothing is seen as a directory. -/
theorem parse_patternsText {included excluded : List Text} (hincluded : ∀ p ∈ included, IsPlain p)
    (hexcluded : ∀ p ∈ excluded, IsPlain p) {configPath root : Path}
    (hroot : configPath.parent = some root) {compiler : SetCompiler} {filter : SourceFilter}
    (h : ofPatterns root (fun _ => false) included excluded compiler = .ok filter) :
    parse configPath (patternsText included excluded) compiler =
      .ok { configPath, rootDir := root, options := {}, files := none, included := some included,
            excluded } := by
  unfold parse
  rw [WrittenConfig.ofText_patternsText hincluded hexcluded]
  simp only [ofWritten, hroot, Option.getD_some, effectivePatterns, checkPatterns, h]
  rfl

/-! ### A tree with a long name -/

/-- A name of `n + 1` letters. -/
def longName (n : Nat) : Text := List.replicate (n + 1) 'a'

theorem eq_of_mem_longName {n : Nat} {c : Char} (h : c ∈ longName n) : c = 'a' :=
  List.eq_of_mem_replicate h

theorem not_mem_longName {n : Nat} {c : Char} (h : c ≠ 'a') : c ∉ longName n :=
  fun hmem => h (eq_of_mem_longName hmem)

theorem getLast?_longName (n : Nat) : (longName n).getLast? = some 'a' := by
  rw [longName, List.replicate_succ', List.getLast?_concat]

theorem isName_longName (n : Nat) : IsName (longName n) :=
  ⟨rfl, not_mem_longName (by decide)⟩

theorem trim_longName (n : Nat) : Text.trim (longName n) = longName n := by
  have hstart : Text.trimStart (longName n) = longName n :=
    List.dropWhile_cons_of_neg (by decide)
  have hreverse : (longName n).reverse = longName n := List.reverse_replicate
  rw [Text.trim, hstart, Text.trimEnd, hreverse]
  exact (congrArg List.reverse hstart).trans hreverse

theorem plain_longName {n : Nat} : ∀ c ∈ longName n, Glob.isPlain c = true := by
  intro c hc
  rw [eq_of_mem_longName hc]
  rfl

theorem spells_longName (root : Path) (n : Nat) :
    Spells root [longName n] (Text.trim (longName n)) := by
  rw [trim_longName]
  have hsegments : Path.segments (joinSegments [longName n]) = [longName n] :=
    Path.segments_joinSegments (List.cons_ne_nil _ _)
      (List.forall_mem_singleton.mpr (isName_longName n).2)
  have hnone : ∀ s ∈ ([] : List Text), s = ['.'] := fun _ h => absurd h List.not_mem_nil
  have hempty : ∀ s ∈ ([] : List Text), s = [] := fun _ h => absurd h List.not_mem_nil
  exact .fromRoot [] [] hnone hempty (List.cons_ne_nil _ _) rfl hsegments

theorem namesDirectory_longName {root : Path} {isDirectory : Path → Bool} {n : Nat}
    (hseen : isDirectory (root.below [longName n]) = true) :
    NamesDirectory root isDirectory (longName n) [longName n] where
  areNames := List.forall_mem_singleton.mpr (isName_longName n)
  spells := spells_longName root n
  plain := plain_longName
  closing := not_mem_longName (by decide)
  seen := hseen

/-- Nothing is expanded when the config is loaded. -/
theorem anchor_longName {rs : List Text} (hrs : AreNames rs) (n : Nat) :
    anchor (ofNames rs) (fun _ => false) (longName n) = some ('/' :: longName n) := by
  have hname : AreNames [longName n] := List.forall_mem_singleton.mpr (isName_longName n)
  obtain ⟨t, ht, hdrop⟩ := relativePattern_of_spells hrs hname (spells_longName (ofNames rs) n)
  have hstars : Text.startsWith ['*', '*'] (longName n) = false :=
    not_startsWith_stars (not_mem_longName (by decide))
  unfold anchor
  rw [ht]
  simp only [Option.map_some, hdrop, joinSegments, Bool.and_false, Bool.false_eq_true, if_false,
    hstars]
  rfl

theorem ofLine_longName (n : Nat) :
    GlobRule.ofLine .refused ('/' :: longName n) =
      .ok (some ⟨(longName n).map .literal, false, false⟩) := by
  have hlast : ('/' :: longName n).getLast? = some 'a' := by
    rw [List.getLast?_cons, getLast?_longName]
    rfl
  have hcontent : GlobRule.content (GlobRule.signOf false ++ '/' :: longName n) =
      GlobRule.signOf false ++ '/' :: longName n :=
    GlobRule.content_of_getLast? hlast (by decide)
  have hmark : GlobRule.splitDirectoryMark (longName n) = (longName n, false) := by
    have hslash : Text.stripEnd ['/'] (longName n) = none := by
      cases h : Text.stripEnd ['/'] (longName n) with
      | none => rfl
      | some rest =>
          have hend := getLast?_longName n
          rw [Text.stripEnd_eq_some_iff.mp h, List.getLast?_concat] at hend
          cases hend
    rw [GlobRule.splitDirectoryMark, hslash]
  have hwhole : GlobRule.wholePattern true (longName n) = longName n :=
    GlobRule.wholePattern_of_star_not_mem (not_mem_longName (by decide))
  have hparse : Glob.parse .refused (longName n) = .ok ((longName n).map .literal) := by
    refine Glob.parse_eq_ok_iff.mpr ⟨_, Glob.feed_plain plain_longName rfl rfl, rfl, ?_⟩
    rw [List.append_nil, List.reverse_reverse]
  have hline : GlobRule.ofLine .refused (GlobRule.signOf false ++ '/' :: longName n) = _ :=
    GlobRule.ofLine_signOf hcontent (GlobRule.head?_signOf false _)
  rw [hmark, hwhole, hparse] at hline
  exact hline

/-- **The config is loaded**: both patterns are plain texts, which are looked up in a table. -/
theorem parse_longName (n : Nat) :
    parse (.ofString "/p/tsconfig.json") (patternsText ["a.ts".toList, longName n] []) =
      .ok (loneProject ["a.ts".toList, longName n]) := by
  have hplain : ∀ p ∈ ["a.ts".toList, longName n], IsPlain p := by
    have hfirst : IsPlain "a.ts".toList := List.all_eq_true.mp (by cbv)
    refine List.forall_mem_cons.mpr ⟨hfirst, List.forall_mem_singleton.mpr fun c hc => ?_⟩
    rw [eq_of_mem_longName hc]
    cbv
  -- the first pattern can be computed; the name is as long as one likes
  have hfirst : GlobRule.ofLine .refused "/a.ts".toList =
      .ok (some ⟨"a.ts".toList.map .literal, false, false⟩) := by cbv
  have hanchor : anchor (.ofString "/p") (fun _ => false) "a.ts".toList =
      some "/a.ts".toList := by cbv
  have hrs : AreNames ["p".toList] := by decide
  have hlong : anchor (.ofString "/p") (fun _ => false) (longName n) =
      some ('/' :: longName n) := anchor_longName hrs n
  have hrules : allRules (.ofString "/p") (fun _ => false) ["a.ts".toList, longName n] [] =
      .ok [⟨"a.ts".toList.map .literal, false, false⟩,
        ⟨(longName n).map .literal, false, false⟩] := by
    refine SourceFilter.allRules_eq_ok_iff.mpr ⟨_, [], ?_, rfl, (List.append_nil _).symm⟩
    simp only [rulesOf, SourceFilter.globOf, hanchor, hlong, hfirst, ofLine_longName]
    rfl
  have hstates : SetCompiler.standard.refusal [⟨"a.ts".toList.map .literal, false, false⟩,
        ⟨(longName n).map .literal, false, false⟩] = none := by
    refine SetCompiler.refusal_standard_eq_none (List.forall_mem_cons.mpr
      ⟨Glob.isTabled_literal _, List.forall_mem_singleton.mpr (Glob.isTabled_literal _)⟩)
  exact parse_patternsText hplain (fun _ h => absurd h List.not_mem_nil) rfl
    (SourceFilter.ofPatterns_eq_ok_iff.mpr ⟨_, hrules, hstates, rfl⟩)

/-- A module in a folder with a long name, and one beside the folder. -/
def longTree (n : Nat) : MemoryTree :=
  .ofFiles [(ofNames ["p".toList, longName n, "x.ts".toList], []), (.ofString "/p/a.ts", [])]

theorem get?_longTree (n : Nat) (cs : List Component) :
    (longTree n).files.get? cs =
      if cs = [.root, .name "p".toList, .name "a.ts".toList] then some []
      else if cs = [.root, .name "p".toList, .name (longName n), .name "x.ts".toList] then some []
      else none := by
  have hbelow : AreNames ["p".toList, longName n, "x.ts".toList] :=
    List.forall_mem_cons.mpr ⟨by decide, List.forall_mem_cons.mpr ⟨isName_longName n, by decide⟩⟩
  have hfiles : (longTree n).files = (({} : Table (List Component) Text).insert
      (ofNames ["p".toList, longName n, "x.ts".toList]).components []).insert
        (ofNames ["p".toList, "a.ts".toList]).components [] := rfl
  rw [hfiles, Table.get?_insert, Table.get?_insert, Path.components_ofNames hbelow,
    Path.components_ofNames (by decide)]
  rfl

theorem isDirectory_longTree (n : Nat) :
    (longTree n).view.isDirectory (ofNames ["p".toList, longName n]) = true := by
  have hnames : AreNames ["p".toList, longName n] :=
    List.forall_mem_cons.mpr ⟨by decide, List.forall_mem_singleton.mpr (isName_longName n)⟩
  have hlong : longName n ≠ ['a', '.', 't', 's'] := by
    intro h
    have hdot : '.' ∈ longName n := by rw [h]; decide
    exact not_mem_longName (by decide) hdot
  have hmodule : [.root, .name "p".toList, .name (longName n), .name "x.ts".toList] ∈
      (longTree n).files.keys := by
    rw [Table.mem_keys_iff]
    exact ⟨[], by rw [get?_longTree, if_neg (by simp), if_pos rfl]⟩
  refine MemoryTree.isDirectory_of_prefix rfl ?_ hmodule ?_
  · rw [Path.components_ofNames hnames, get?_longTree, if_neg (by simp [hlong]), if_neg (by simp)]
  · rw [Path.components_ofNames hnames]
    exact List.prefix_append _ [_]

/-- **A folder with a long name** takes the walk from a project that could be loaded. -/
theorem scriptFiles_longName {n : Nat}
    (hlarge : SetCompiler.sizeLimit < SetCompiler.stateSize * (n + 1)) :
    let c := loneProject ["a.ts".toList, longName n]
    let view := (longTree n).view
    parse (.ofString "/p/tsconfig.json") (patternsText ["a.ts".toList, longName n] []) = .ok c ∧
      view.isDirectory (c.rootDir.below [longName n]) = true ∧
      ofPatterns c.rootDir view.isDirectory ["a.ts".toList, longName n] [] =
        .error (.refused "error building NFA") ∧
      lone.HoldsFile ["p".toList] ["a.ts".toList] ∧
      c.acceptsExtension (.ofString "/p/a.ts") = true ∧
      view.isFile (.ofString "/p/a.ts") = true ∧
      c.scriptFiles view lone = [] := by
  intro c view
  have hrs : AreNames ["p".toList] := by decide
  have hname : AreNames [longName n] := List.forall_mem_singleton.mpr (isName_longName n)
  have hparse := parse_longName n
  have hseen : view.isDirectory (c.rootDir.below [longName n]) = true := by
    rw [show c.rootDir = ofNames ["p".toList] from rfl, Path.below_ofNames hrs hname]
    exact isDirectory_longTree n
  have hrefused := ofPatterns_of_large hparse rfl rfl hrs
    (List.mem_cons_of_mem _ (List.mem_singleton_self _)) (List.cons_ne_nil _ _)
    (namesDirectory_longName hseen) (by
      change SetCompiler.sizeLimit < SetCompiler.stateSize * (longName n).length
      rwa [longName, List.length_replicate])
  have hkind : ModuleKind.ofPath (.ofString "/p/a.ts") = some .typeScript := by decide +kernel
  refine ⟨hparse, hseen, hrefused, holdsFile_lone, ?_, ?_, ?_⟩
  · rw [acceptsExtension, hkind]
    rfl
  · refine MemoryTree.isFile_of_get? rfl (?_ : _ = some [])
    rw [get?_longTree, if_pos (by cbv)]
  · exact (scriptFiles_of_error rfl hrefused lone).trans (by cbv)

end ProjectConfig

end ImportLint
