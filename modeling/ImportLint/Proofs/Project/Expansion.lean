import Mathlib.Data.List.DropRight
import ImportLint.Proofs.Glob.Reading
import ImportLint.Proofs.Project.Patterns
import ImportLint.Proofs.Text.Parts

/-!
# Projects — patterns for directories

A pattern that names a directory is expanded to a pattern for all that is below the directory.
The expansion can be read whenever the pattern can: what the view sees as directories does not
decide whether the patterns of a project are globs.

* `ofLine_everything`: the rule of a line for all that is below a text.
* `ofLine_expands`: a line that can be read can also be read when it is expanded.
* `SourceFilter.CanRead`, `exists_allRules_iff`: two lists of patterns have rules if each of their
  patterns can be read.
* `SourceFilter.allRules_expands`: then they have rules when they are expanded.
* `SourceFilter.allRules_congr`: the rules are the same where nothing is expanded.
-/

namespace ImportLint

open Glob (isPlain)

/-! ### Lines -/

theorem isPlain_of_isBlank {c : Char} (h : Text.isBlank c = true) : isPlain c = true := by
  by_contra hc
  simp only [isPlain, List.contains_iff_mem, Bool.not_eq_true', Bool.not_eq_false,
    List.mem_cons, List.not_mem_nil, or_false] at hc
  rcases hc with rfl | rfl | rfl | rfl | rfl | rfl <;> revert h <;> decide

namespace GlobRule

/-- A line with something at its end is read as it is. -/
theorem content_of_getLast? {line : Text} {c : Char} (hl : line.getLast? = some c)
    (hc : Text.isBlank c = false) : content line = line := by
  obtain ⟨start, rfl⟩ := List.getLast?_eq_some_iff.mp hl
  unfold content
  split
  · rfl
  · exact List.rdropWhile_concat_neg _ _ c (by simp [hc])

theorem trimEnd_slash (start t : Text) :
    Text.trimEnd (start ++ '/' :: t) = start ++ '/' :: Text.trimEnd t := by
  change List.rdropWhile Text.isBlank (start ++ '/' :: t) =
    start ++ '/' :: List.rdropWhile Text.isBlank t
  induction t using List.reverseRecOn with
  | nil => exact List.rdropWhile_concat_neg _ _ '/' (by decide)
  | append_singleton t c ih =>
      rw [← List.cons_append, ← List.append_assoc, List.rdropWhile_concat,
        List.rdropWhile_concat]
      split
      · exact ih
      · rw [List.append_assoc, List.cons_append]

/-- Only blanks at the end of a line are lost. -/
theorem content_slash (start t : Text) :
    ∃ kept blanks, content (start ++ '/' :: t) = start ++ '/' :: kept ∧ t = kept ++ blanks ∧
      ∀ b ∈ blanks, Text.isBlank b = true := by
  unfold content
  split
  · exact ⟨t, [], rfl, (List.append_nil t).symm, fun _ h => (nomatch h)⟩
  · exact ⟨Text.trimEnd t, t.rtakeWhile Text.isBlank, trimEnd_slash start t,
      List.rdropWhile_append_rtakeWhile.symm, fun b hb => List.mem_rtakeWhile_imp hb⟩

/-- What is cut off from a text that names a directory: a slash, and an escape before it. -/
theorem splitDirectoryMark_cases (t : Text) :
    ∃ mark ∈ [[], ['/'], ['\\', '/']], t = (splitDirectoryMark t).1 ++ mark := by
  unfold splitDirectoryMark
  cases hslash : Text.stripEnd ['/'] t with
  | none => exact ⟨[], by decide, (List.append_nil t).symm⟩
  | some u =>
      obtain rfl := Text.stripEnd_eq_some_iff.mp hslash
      cases hescape : Text.stripEnd ['\\'] u with
      | none => exact ⟨['/'], by decide, by simp [hescape]⟩
      | some v =>
          obtain rfl := Text.stripEnd_eq_some_iff.mp hescape
          exact ⟨['\\', '/'], by decide, by simp [hescape]⟩

theorem wholePattern_of_star_not_mem {t : Text} (h : '*' ∉ t) : wholePattern true t = t := by
  unfold wholePattern
  simp only [Bool.true_or, if_true]
  rw [if_neg]
  intro hends
  obtain ⟨start, hstart⟩ := Option.isSome_iff_exists.mp hends
  rw [Text.stripEnd_eq_some_iff.mp hstart] at h
  exact h (List.mem_append_right start (by decide))

/-- The sign before a line that takes back, or nothing. -/
def signOf (isNegated : Bool) : Text := if isNegated then ['!'] else []

theorem splitMarks_signOf (isNegated : Bool) (t : Text) :
    splitMarks (signOf isNegated ++ '/' :: t) = (isNegated, true, t) := by
  cases isNegated <;> rfl

theorem head?_signOf (isNegated : Bool) (t : Text) :
    (signOf isNegated ++ '/' :: t).head? ≠ some '#' := by
  cases isNegated <;> simp [signOf]

/-- How a line that is bound to the root is read. -/
theorem ofLine_signOf {policy : Glob.OpenClass} {isNegated : Bool} {line t : Text}
    (hline : content line = signOf isNegated ++ '/' :: t) (hcomment : line.head? ≠ some '#') :
    ofLine policy line =
      match Glob.parse policy (wholePattern true (splitDirectoryMark t).1) with
      | .error fault => .error ⟨content line, fault⟩
      | .ok tokens => .ok (some ⟨tokens, isNegated, (splitDirectoryMark t).2⟩) := by
  have hempty : (signOf isNegated ++ '/' :: t).isEmpty = false := by cases isNegated <;> rfl
  unfold ofLine
  rw [if_neg (by simpa using hcomment)]
  cases hparse : Glob.parse policy (wholePattern true (splitDirectoryMark t).1) <;>
    simp only [hline, hempty, Bool.false_eq_true, if_false, splitMarks_signOf, hparse]

/-- **The rule of a line** for all that is below a text. -/
theorem ofLine_everything {policy : Glob.OpenClass} (isNegated : Bool) (t : Text) :
    ofLine policy (signOf isNegated ++ '/' :: (t ++ '/' :: everything)) =
      match Glob.parse policy (t ++ '/' :: everything) with
      | .error fault => .error ⟨signOf isNegated ++ '/' :: (t ++ '/' :: everything), fault⟩
      | .ok tokens => .ok (some ⟨tokens, isNegated, false⟩) := by
  have hlast : (signOf isNegated ++ '/' :: (t ++ '/' :: everything)).getLast? = some '*' := by
    rw [List.getLast?_append, ← List.cons_append, List.getLast?_append]
    rfl
  have hcontent := content_of_getLast? hlast (by decide)
  have hmark : splitDirectoryMark (t ++ '/' :: everything) = (t ++ '/' :: everything, false) := by
    have hslash : Text.stripEnd ['/'] (t ++ '/' :: everything) = none := by
      simp [Text.stripEnd, everything, Text.stripStart]
    rw [splitDirectoryMark, hslash]
  have hwhole : wholePattern true (t ++ '/' :: everything) = t ++ '/' :: everything := by
    simp [wholePattern, Text.endsWith, Text.stripEnd, everything, Text.stripStart]
  rw [ofLine_signOf hcontent (head?_signOf _ _), hmark, hwhole, hcontent]

/-- **A line that can be read** can also be read when it is expanded. -/
theorem ofLine_expands {isNegated : Bool} {t : Text} (ht : '*' ∉ t ∧ '[' ∉ t)
    {found : Option GlobRule} (h : ofLine .refused (signOf isNegated ++ '/' :: t) = .ok found) :
    ∃ rule, ofLine .refused (signOf isNegated ++ '/' :: (t ++ '/' :: everything)) =
      .ok (some rule) := by
  obtain ⟨kept, blanks, hcontent, rfl, hblanks⟩ := content_slash (signOf isNegated) t
  obtain ⟨mark, hmark, hkept⟩ := splitDirectoryMark_cases kept
  rw [ofLine_signOf hcontent (head?_signOf _ _)] at h
  generalize (splitDirectoryMark kept).1 = core at h hkept
  subst hkept
  have hcore : '*' ∉ core ∧ '[' ∉ core :=
    ⟨fun hm => ht.1 (by simp [hm]), fun hm => ht.2 (by simp [hm])⟩
  rw [wholePattern_of_star_not_mem hcore.1] at h
  cases hparse : Glob.parse .refused core with
  | error fault => rw [hparse] at h; cases h
  | ok tokens =>
      have hplain : ∀ c ∈ blanks, isPlain c = true := fun c hc => isPlain_of_isBlank (hblanks c hc)
      suffices ∃ more, Glob.parse .refused (core ++ mark ++ blanks ++ '/' :: everything) =
          .ok more by
        obtain ⟨more, hmore⟩ := this
        exact ⟨⟨more, isNegated, false⟩, by rw [ofLine_everything, hmore]⟩
      simp only [List.mem_cons, List.not_mem_nil, or_false] at hmark
      rcases hmark with rfl | rfl | rfl
      · rw [List.append_nil, List.append_assoc]
        exact Glob.parse_append_everything hcore hparse hplain
      · rw [List.append_assoc core, List.append_assoc core]
        exact Glob.parse_append_everything hcore hparse (List.forall_mem_cons.mpr ⟨rfl, hplain⟩)
      · obtain ⟨more, hmore⟩ := Glob.parse_append_escape hcore hparse
        rw [List.append_assoc]
        exact Glob.parse_append_everything (by simpa using hcore) hmore hplain

end GlobRule

/-! ### Patterns -/

theorem star_bracket_not_mem {t : Text} (h : hasWildcard t = false) : '*' ∉ t ∧ '[' ∉ t := by
  have hnone : ∀ c ∈ t, ¬ (c == '*' || c == '?' || c == '[' || c == ']') = true :=
    List.any_eq_false.mp h
  exact ⟨fun hm => hnone _ hm rfl, fun hm => hnone _ hm rfl⟩

theorem not_startsWith_stars {t : Text} (h : '*' ∉ t) : Text.startsWith ['*', '*'] t = false := by
  cases t with
  | nil => rfl
  | cons c cs =>
      have hc : ¬ '*' = c := fun e => h (e ▸ List.mem_cons_self)
      simp [Text.startsWith, Text.stripStart, hc]

namespace SourceFilter

variable {root : Path} {isDirectory : Path → Bool} {role : PatternRole}

/-- A pattern that is seen as a directory has no wildcards, and is expanded. -/
theorem anchor_cases (root : Path) (isDirectory : Path → Bool) (pattern : Text) :
    anchor root isDirectory pattern = anchor root (fun _ => false) pattern ∨
      ∃ t, hasWildcard t = false ∧ anchor root (fun _ => false) pattern = some ('/' :: t) ∧
        anchor root isDirectory pattern = some ('/' :: (t ++ '/' :: everything)) := by
  unfold anchor
  cases relativePattern root pattern with
  | none => exact Or.inl rfl
  | some relative =>
      simp only [Option.map_some]
      generalize dropTrailingSlashes relative = t
      cases hempty : t.isEmpty with
      | true => exact Or.inl rfl
      | false =>
          cases hexpand : !hasWildcard t && isDirectory (root.join ⟨t⟩) with
          | false => exact Or.inl (by rw [Bool.and_false])
          | true =>
              obtain ⟨hw, -⟩ := Bool.and_eq_true_iff.mp hexpand
              rw [Bool.not_eq_true'] at hw
              refine Or.inr ⟨t, hw, ?_, rfl⟩
              simp only [Bool.false_eq_true, if_false, Bool.and_false]
              rw [not_startsWith_stars (star_bracket_not_mem hw).1]
              rfl

/-- The same for a pattern of a list, behind its sign. -/
theorem globOf_cases (root : Path) (isDirectory : Path → Bool) (role : PatternRole)
    (pattern : Text) :
    globOf root isDirectory role pattern = globOf root (fun _ => false) role pattern ∨
      ∃ t, hasWildcard t = false ∧
        globOf root (fun _ => false) role pattern =
          some (GlobRule.signOf (role == .excluded) ++ '/' :: t) ∧
        globOf root isDirectory role pattern =
          some (GlobRule.signOf (role == .excluded) ++ '/' :: (t ++ '/' :: everything)) := by
  have hanchor := anchor_cases root isDirectory pattern
  cases role with
  | included => exact hanchor
  | excluded =>
      by_cases hdefault : defaultExcluded.contains pattern = true
      · exact Or.inl (by simp only [globOf, hdefault, if_true])
      · simp only [globOf, hdefault, Bool.false_eq_true, if_false]
        obtain h | ⟨t, ht, hplain, hexpanded⟩ := hanchor
        · exact Or.inl (by rw [h])
        · exact Or.inr ⟨t, ht, by rw [hplain]; rfl, by rw [hexpanded]; rfl⟩

/-- A pattern of a list can be read: it has no glob, or its glob is a line that can be read. -/
def CanRead (root : Path) (isDirectory : Path → Bool) (role : PatternRole) (pattern : Text) :
    Prop :=
  ∀ glob, globOf root isDirectory role pattern = some glob →
    ∃ rule, GlobRule.ofLine .refused glob = .ok rule

/-- **A pattern that can be read** can be read whatever is seen as a directory. -/
theorem CanRead.expands {pattern : Text} (h : CanRead root (fun _ => false) role pattern)
    (isDirectory : Path → Bool) : CanRead root isDirectory role pattern := by
  intro glob hg
  obtain hsame | ⟨t, ht, hplain, hexpanded⟩ := globOf_cases root isDirectory role pattern
  · exact h glob (hsame ▸ hg)
  · obtain ⟨rule, hrule⟩ := h _ hplain
    obtain ⟨more, hmore⟩ := GlobRule.ofLine_expands (star_bracket_not_mem ht) hrule
    cases hexpanded.symm.trans hg
    exact ⟨some more, hmore⟩

/-- **A list of patterns** can be read if each of them can. -/
theorem exists_rulesOf_iff {patterns : List Text} :
    (∃ rules, rulesOf root isDirectory role patterns = .ok rules) ↔
      ∀ pattern ∈ patterns, CanRead root isDirectory role pattern := by
  induction patterns with
  | nil => exact ⟨fun _ _ h => (nomatch h), fun _ => ⟨[], rfl⟩⟩
  | cons pattern rest ih =>
      rw [List.forall_mem_cons, ← ih]
      constructor
      · rintro ⟨rules, h⟩
        obtain ⟨first, others, hrest, -, hfirst⟩ := of_rulesOf_cons h
        refine ⟨fun glob hg => ?_, others, hrest⟩
        obtain ⟨hnone, -⟩ | ⟨glob', hg', hl⟩ := hfirst
        · cases hnone.symm.trans hg
        · cases hg'.symm.trans hg
          exact ⟨first, hl⟩
      · rintro ⟨hread, others, hrest⟩
        rw [rulesOf, hrest]
        cases hg : globOf root isDirectory role pattern with
        | none => exact ⟨others, rfl⟩
        | some glob =>
            obtain ⟨rule, hl⟩ := hread glob hg
            exact ⟨rule.toList ++ others, by simp only [hl]; rfl⟩

/-- **Two lists of patterns** have rules if each of their patterns can be read. -/
theorem exists_allRules_iff {included excluded : List Text} :
    (∃ rules, allRules root isDirectory included excluded = .ok rules) ↔
      (∀ pattern ∈ included, CanRead root isDirectory .included pattern) ∧
        ∀ pattern ∈ excluded, CanRead root isDirectory .excluded pattern := by
  rw [← exists_rulesOf_iff, ← exists_rulesOf_iff]
  constructor
  · rintro ⟨_, h⟩
    obtain ⟨taken, left, ht, hl, -⟩ := allRules_eq_ok_iff.mp h
    exact ⟨⟨taken, ht⟩, left, hl⟩
  · rintro ⟨⟨taken, ht⟩, left, hl⟩
    exact ⟨_, allRules_eq_ok_iff.mpr ⟨taken, left, ht, hl, rfl⟩⟩

/-- **Two lists of patterns** that have rules have rules whatever is seen as a directory. -/
theorem allRules_expands {included excluded : List Text} {rules : List GlobRule}
    (h : allRules root (fun _ => false) included excluded = .ok rules)
    (isDirectory : Path → Bool) :
    ∃ expanded, allRules root isDirectory included excluded = .ok expanded := by
  obtain ⟨hincluded, hexcluded⟩ := exists_allRules_iff.mp ⟨rules, h⟩
  exact exists_allRules_iff.mpr ⟨fun p hp => (hincluded p hp).expands isDirectory,
    fun p hp => (hexcluded p hp).expands isDirectory⟩

/-- The rules of a list depend on what is seen as a directory through its anchored patterns
only. -/
theorem rulesOf_congr {isDirectory' : Path → Bool} {patterns : List Text}
    (h : ∀ p ∈ patterns, anchor root isDirectory p = anchor root isDirectory' p) :
    rulesOf root isDirectory role patterns = rulesOf root isDirectory' role patterns := by
  induction patterns with
  | nil => rfl
  | cons pattern rest ih =>
      obtain ⟨hthis, hrest⟩ := List.forall_mem_cons.mp h
      have hglob :
          globOf root isDirectory role pattern = globOf root isDirectory' role pattern := by
        cases role with
        | included => exact hthis
        | excluded => simp only [globOf, hthis]
      rw [rulesOf, rulesOf, hglob, ih hrest]

/-- **Two lists of which no pattern is expanded** have the rules that they have when nothing is
seen as a directory. -/
theorem allRules_congr {isDirectory' : Path → Bool} {included excluded : List Text}
    (h : ∀ p ∈ included ++ excluded, anchor root isDirectory p = anchor root isDirectory' p) :
    allRules root isDirectory included excluded = allRules root isDirectory' included excluded := by
  rw [List.forall_mem_append] at h
  rw [allRules, allRules, rulesOf_congr h.1, rulesOf_congr h.2]

end SourceFilter

end ImportLint
