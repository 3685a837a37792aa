import ImportLint.Project.Patterns
import ImportLint.Proofs.Path.Names
import ImportLint.Proofs.Text.Parts

/-!
# Projects — what the patterns say

The rules of a project take what an included pattern matches and leave what an excluded one
matches; the last rule that matches decides, and excluded patterns come last.  A path that no rule
matches is left if there is a rule that takes anything at all.

* `GlobRule.Covers`: a rule matches a path seen from the root.
* `SourceFilter.IsRuleOf`: a rule of one of some patterns.
* `SourceFilter.mem_rulesOf`: a list of patterns is turned into its rules.
* `SourceFilter.isNegated_of_isRuleOf`: rules of excluded patterns take back, others do not.
* `SourceFilter.ofPatterns_eq_ok_iff`, `of_ofPatterns_eq_error`: when two lists of patterns make a
  filter, and why they do not.
* `SourceFilter.verdict_ofPatterns`: what the filter of two lists says about a path.
-/

namespace ImportLint

open ImportLint.Path (AreNames IsName ofNames joinSegments)

/-! ### Rules and paths -/

/-- A rule matches a path, seen from the directory of the rule, as that of a directory or not. -/
def GlobRule.Covers (rule : GlobRule) (path : Text) (asDirectory : Bool) : Prop :=
  (rule.onlyDirectories = true → asDirectory = true) ∧ Glob.covers rule.tokens path = true

theorem Path.stripStart_slash_joinSegments {ns : List Text} (h : AreNames ns) :
    Text.stripStart ['/'] (joinSegments ns) = none := by
  have hrelative := Path.isAbsolute_joinSegments h
  cases ht : joinSegments ns with
  | nil => rfl
  | cons c cs =>
      have hc : ¬ '/' = c := by
        rintro rfl
        rw [ht] at hrelative
        cases hrelative
      simp [Text.stripStart, hc]

/-- **Rules see a path** from their directory on. -/
theorem RuleList.relative_ofNames (rs : List Text) {names : List Text} (hnames : AreNames names)
    (hne : names ≠ []) (rules : List GlobRule) :
    RuleList.relative ⟨ofNames rs, rules⟩ (ofNames (rs ++ names)) = joinSegments names := by
  have hbase : ((ofNames rs).chars == ['.']) = false := rfl
  have hslash : (ofNames (rs ++ names)).chars.contains '/' = true := rfl
  unfold RuleList.relative
  simp only [hbase, hslash, Bool.not_true, Bool.or_false, Bool.false_eq_true, if_false]
  cases rs with
  | nil =>
      have hchars : (ofNames ([] ++ names)).chars =
          (ofNames []).chars ++ joinSegments names := rfl
      rw [hchars, Text.stripStart_append]
      simp only
      rw [Path.stripStart_slash_joinSegments hnames]
      rfl
  | cons r rs =>
      have hchars : (ofNames (r :: rs ++ names)).chars =
          (ofNames (r :: rs)).chars ++ '/' :: joinSegments names := by
        change '/' :: joinSegments (r :: rs ++ names) = _
        rw [Path.joinSegments_append (List.cons_ne_nil r rs) hne]
        rfl
      rw [hchars, Text.stripStart_append]
      simp only
      rw [show '/' :: joinSegments names = ['/'] ++ joinSegments names from rfl,
        Text.stripStart_append]
      rfl

namespace SourceFilter

/-! ### The rules of patterns -/

/-- A rule of one of some patterns. -/
def IsRuleOf (root : Path) (isDirectory : Path → Bool) (role : PatternRole)
    (patterns : List Text) (rule : GlobRule) : Prop :=
  ∃ pattern ∈ patterns, ∃ glob, globOf root isDirectory role pattern = some glob ∧
    GlobRule.ofLine .refused glob = .ok (some rule)

/-- One of some patterns matches a path, seen from the root. -/
def Matches (root : Path) (isDirectory : Path → Bool) (role : PatternRole)
    (patterns : List Text) (path : Text) (asDirectory : Bool) : Prop :=
  ∃ rule, IsRuleOf root isDirectory role patterns rule ∧ rule.Covers path asDirectory

/-- One of some patterns is about paths below the root. -/
def HasGlob (root : Path) (isDirectory : Path → Bool) (patterns : List Text) : Prop :=
  ∃ pattern ∈ patterns, ∃ glob, anchor root isDirectory pattern = some glob

variable {root : Path} {isDirectory : Path → Bool} {role : PatternRole} {patterns : List Text}

/-- The rules of a list are the rule of its first pattern, if it has a glob, and those of the
rest. -/
theorem of_rulesOf_cons {pattern : Text} {rules : List GlobRule}
    (h : rulesOf root isDirectory role (pattern :: patterns) = .ok rules) :
    ∃ first others, rulesOf root isDirectory role patterns = .ok others ∧
      rules = first.toList ++ others ∧
        (globOf root isDirectory role pattern = none ∧ first = none ∨
          ∃ glob, globOf root isDirectory role pattern = some glob ∧
            GlobRule.ofLine .refused glob = .ok first) := by
  rw [rulesOf] at h
  cases hrest : rulesOf root isDirectory role patterns with
  | error f =>
      rw [hrest] at h
      split at h
      · cases h
      · next glob _ =>
        cases hl : GlobRule.ofLine .refused glob with
        | error f => rw [hl] at h; cases h
        | ok first => rw [hl] at h; cases h
  | ok others =>
      rw [hrest] at h
      split at h
      · next hg =>
        cases h
        exact ⟨none, others, rfl, rfl, Or.inl ⟨hg, rfl⟩⟩
      · next glob hg =>
        cases hl : GlobRule.ofLine .refused glob with
        | error f => rw [hl] at h; cases h
        | ok first =>
            rw [hl] at h
            cases h
            exact ⟨first, others, rfl, rfl, Or.inr ⟨glob, hg, hl⟩⟩

/-- **A list of patterns** is turned into its rules. -/
theorem mem_rulesOf {rules : List GlobRule}
    (h : rulesOf root isDirectory role patterns = .ok rules) (rule : GlobRule) :
    rule ∈ rules ↔ IsRuleOf root isDirectory role patterns rule := by
  induction patterns generalizing rules with
  | nil =>
      cases h
      exact ⟨fun h => (nomatch h), fun ⟨_, h, _⟩ => (nomatch h)⟩
  | cons pattern rest ih =>
      obtain ⟨first, others, hrest, rfl, hfirst⟩ := of_rulesOf_cons h
      have hthis : first = some rule ↔ ∃ glob, globOf root isDirectory role pattern = some glob ∧
          GlobRule.ofLine .refused glob = .ok (some rule) := by
        obtain ⟨hg, rfl⟩ | ⟨glob, hg, hl⟩ := hfirst
        · rw [hg]
          exact ⟨fun h => (nomatch h), fun ⟨_, h, _⟩ => (nomatch h)⟩
        · simp only [hg, Option.some.injEq, exists_eq_left', hl, Except.ok.injEq]
      rw [List.mem_append, Option.mem_toList, hthis, ih hrest]
      simp only [IsRuleOf, List.mem_cons, exists_eq_or_imp]

/-- The fault of a list is that of the first of its patterns that is no glob. -/
theorem of_rulesOf_eq_error {fault : PatternFault}
    (h : rulesOf root isDirectory role patterns = .error fault) :
    ∃ pattern ∈ patterns, ∃ glob reason, globOf root isDirectory role pattern = some glob ∧
      GlobRule.ofLine .refused glob = .error reason ∧ fault = .malformed role pattern reason := by
  induction patterns with
  | nil => cases h
  | cons pattern rest ih =>
      -- what is wrong with a later pattern counts only if nothing is wrong with this one
      have hfirst : (∃ glob reason, globOf root isDirectory role pattern = some glob ∧
          GlobRule.ofLine .refused glob = .error reason ∧
            fault = .malformed role pattern reason) ∨
          rulesOf root isDirectory role rest = .error fault := by
        rw [rulesOf] at h
        cases hrest : rulesOf root isDirectory role rest with
        | error f =>
            split at h
            · rw [hrest] at h
              cases h
              exact Or.inr rfl
            · next glob hg =>
              cases hl : GlobRule.ofLine .refused glob with
              | error reason => rw [hl] at h; cases h; exact Or.inl ⟨glob, reason, hg, hl, rfl⟩
              | ok first => rw [hl, hrest] at h; cases h; exact Or.inr rfl
        | ok others =>
            split at h
            · rw [hrest] at h
              cases h
            · next glob hg =>
              cases hl : GlobRule.ofLine .refused glob with
              | error reason => rw [hl] at h; cases h; exact Or.inl ⟨glob, reason, hg, hl, rfl⟩
              | ok first => rw [hl, hrest] at h; cases h
      rcases hfirst with hthis | hrest
      · exact ⟨pattern, List.mem_cons_self, hthis⟩
      · obtain ⟨p, hp, hfault⟩ := ih hrest
        exact ⟨p, List.mem_cons_of_mem pattern hp, hfault⟩

/-! ### Signs -/

/-- A line goes on with its first character when it has lost the blanks at its end. -/
theorem content_cons {c : Char} (hc : Text.isBlank c = false) (cs : Text) :
    ∃ cs', GlobRule.content (c :: cs) = c :: cs' := by
  unfold GlobRule.content
  split
  · exact ⟨cs, rfl⟩
  · unfold Text.trimEnd
    rw [List.reverse_cons, List.dropWhile_append]
    split
    · rw [List.dropWhile_cons_of_neg (by simp [hc])]
      exact ⟨[], rfl⟩
    · exact ⟨_, by rw [List.reverse_append]; rfl⟩

/-- A line that begins with none of the marks of a comment and a blank holds a rule, which takes
back if the line begins with the sign. -/
theorem ofLine_cons {c : Char} (hc : Text.isBlank c = false) (hcomment : c ≠ '#')
    (hescape : c ≠ '\\') {cs : Text} {found : Option GlobRule}
    (h : GlobRule.ofLine .refused (c :: cs) = .ok found) :
    ∃ rule, found = some rule ∧ rule.isNegated = (c == '!') := by
  obtain ⟨cs', hcontent⟩ := content_cons hc cs
  have hsign : (GlobRule.splitMarks (c :: cs')).1 = (c == '!') := by
    unfold GlobRule.splitMarks
    split
    · next e => exact absurd (List.cons.inj e).1 hescape
    · next e => exact absurd (List.cons.inj e).1 hescape
    · next e => rw [(List.cons.inj e).1]; rfl
    · next e => rw [(List.cons.inj e).1]; rfl
    · next e => rw [(List.cons.inj e).1]; rfl
    · next hne _ =>
      rw [beq_eq_false_iff_ne.mpr fun e => hne cs' (by rw [e])]
  unfold GlobRule.ofLine at h
  rw [hcontent] at h
  simp only [List.head?_cons, List.isEmpty_cons, Bool.false_eq_true, if_false] at h
  rw [if_neg (by simpa using hcomment)] at h
  split at h
  · cases h
  · cases h
    exact ⟨_, rfl, hsign⟩

/-- An anchored pattern begins with a slash or with stars. -/
theorem anchor_cons {pattern glob : Text} (h : anchor root isDirectory pattern = some glob) :
    ∃ c cs, glob = c :: cs ∧ (c = '/' ∨ c = '*') := by
  obtain ⟨relative, -, rfl⟩ := Option.map_eq_some_iff.mp h
  simp only
  split
  · exact ⟨_, _, rfl, Or.inl rfl⟩
  · split
    · exact ⟨_, _, rfl, Or.inl rfl⟩
    · split
      · next hstars =>
        generalize dropTrailingSlashes relative = relative at hstars
        cases relative with
        | nil => cases hstars
        | cons c cs =>
            refine ⟨c, cs, rfl, Or.inr ?_⟩
            by_contra hc
            have : ¬ '*' = c := fun e => hc e.symm
            simp [Text.startsWith, Text.stripStart, this] at hstars
      · exact ⟨_, _, rfl, Or.inl rfl⟩

/-- The glob of a pattern holds a rule, which takes back if and only if the pattern is an
excluded one. -/
theorem ofLine_globOf {pattern glob : Text} {found : Option GlobRule}
    (hg : globOf root isDirectory role pattern = some glob)
    (h : GlobRule.ofLine .refused glob = .ok found) :
    ∃ rule, found = some rule ∧ rule.isNegated = (role == .excluded) := by
  cases role with
  | included =>
      obtain ⟨c, cs, rfl, rfl | rfl⟩ := anchor_cons hg
      · exact ofLine_cons (by decide) (by decide) (by decide) h
      · exact ofLine_cons (by decide) (by decide) (by decide) h
  | excluded =>
      obtain ⟨cs, rfl⟩ : ∃ cs, glob = '!' :: cs := by
        rw [globOf] at hg
        split at hg
        · exact ⟨_, (Option.some.inj hg).symm⟩
        · obtain ⟨cs, -, rfl⟩ := Option.map_eq_some_iff.mp hg
          exact ⟨cs, rfl⟩
      exact ofLine_cons (by decide) (by decide) (by decide) h

/-- **Rules of excluded patterns** take back, and those of included ones do not. -/
theorem isNegated_of_isRuleOf {rule : GlobRule}
    (h : IsRuleOf root isDirectory role patterns rule) :
    rule.isNegated = (role == .excluded) := by
  obtain ⟨pattern, -, glob, hg, hl⟩ := h
  obtain ⟨rule', he, hsign⟩ := ofLine_globOf hg hl
  cases he
  exact hsign

/-- There are no rules if none of the patterns is about paths below the root. -/
theorem rulesOf_included_eq_nil_iff {rules : List GlobRule}
    (h : rulesOf root isDirectory .included patterns = .ok rules) :
    rules = [] ↔ ¬ HasGlob root isDirectory patterns := by
  induction patterns generalizing rules with
  | nil =>
      cases h
      exact ⟨fun _ ⟨_, h, _⟩ => (nomatch h), fun _ => rfl⟩
  | cons pattern rest ih =>
      obtain ⟨first, others, hrest, rfl, hfirst⟩ := of_rulesOf_cons h
      have hthis : first.toList = [] ↔ ¬ ∃ glob, anchor root isDirectory pattern = some glob := by
        obtain ⟨hg, rfl⟩ | ⟨glob, hg, hl⟩ := hfirst
        · rw [show anchor root isDirectory pattern = none from hg]
          exact ⟨fun _ ⟨_, h⟩ => (nomatch h), fun _ => rfl⟩
        · obtain ⟨rule, rfl, -⟩ := ofLine_globOf hg hl
          exact ⟨fun h => (nomatch h), fun h => absurd ⟨glob, hg⟩ h⟩
      rw [List.append_eq_nil_iff, hthis, ih hrest, ← not_or]
      simp only [HasGlob, List.mem_cons, exists_eq_or_imp]

end SourceFilter

/-! ### What the rules say -/

namespace RuleList

/-- One of some rules matches a path. -/
def Covered (rules : List GlobRule) (path : Text) (asDirectory : Bool) : Prop :=
  ∃ r ∈ rules, r.Covers path asDirectory

/-- The rules among some that match a path. -/
def covering (rules : List GlobRule) (path : Text) (asDirectory : Bool) : List GlobRule :=
  rules.filter fun r => (!r.onlyDirectories || asDirectory) && Glob.covers r.tokens path

variable {rules taken left : List GlobRule} {path : Text} {asDirectory : Bool}

theorem mem_covering {r : GlobRule} :
    r ∈ covering rules path asDirectory ↔ r ∈ rules ∧ r.Covers path asDirectory := by
  rw [covering, List.mem_filter, GlobRule.Covers, Bool.and_eq_true, Bool.or_eq_true,
    Bool.not_eq_true', ← Bool.not_eq_true, ← imp_iff_not_or]

theorem covering_eq_nil (h : ¬ Covered rules path asDirectory) :
    covering rules path asDirectory = [] :=
  List.eq_nil_iff_forall_not_mem.mpr fun r hr => h ⟨r, mem_covering.mp hr⟩

/-- The last rule that matches is one of the rules. -/
theorem exists_getLast?_covering (h : Covered rules path asDirectory) :
    ∃ r ∈ rules, (covering rules path asDirectory).getLast? = some r := by
  obtain ⟨r, hr⟩ := h
  have hlast := List.getLast?_eq_some_getLast (List.ne_nil_of_mem (mem_covering.mpr hr))
  exact ⟨_, (mem_covering.mp (List.mem_of_getLast? hlast)).1, hlast⟩

/-- **The last rule that matches decides**: the verdict of rules that do not take back, followed by
rules that do. -/
theorem verdict_append {base p : Path} (asDirectory : Bool)
    (htaken : ∀ r ∈ taken, r.isNegated = false) (hleft : ∀ r ∈ left, r.isNegated = true)
    (hpath : RuleList.relative ⟨base, taken ++ left⟩ p = path) :
    (Covered left path asDirectory →
        RuleList.verdict ⟨base, taken ++ left⟩ p asDirectory = some .kept) ∧
      (¬ Covered left path asDirectory → Covered taken path asDirectory →
        RuleList.verdict ⟨base, taken ++ left⟩ p asDirectory = some .ignored) ∧
      (¬ Covered left path asDirectory → ¬ Covered taken path asDirectory →
        RuleList.verdict ⟨base, taken ++ left⟩ p asDirectory = none) := by
  have hverdict : RuleList.verdict ⟨base, taken ++ left⟩ p asDirectory =
      ((covering left path asDirectory).getLast?.or
        (covering taken path asDirectory).getLast?).map fun r =>
          if r.isNegated then .kept else .ignored := by
    rw [← List.getLast?_append, covering, covering, ← List.filter_append, ← hpath]
    rfl
  rw [hverdict]
  refine ⟨fun h => ?_, fun hl h => ?_, fun hl h => ?_⟩
  · obtain ⟨r, hr, he⟩ := exists_getLast?_covering h
    rw [he, Option.some_or, Option.map_some, hleft r hr]
    rfl
  · obtain ⟨r, hr, he⟩ := exists_getLast?_covering h
    rw [covering_eq_nil hl, List.getLast?_nil, Option.none_or, he, Option.map_some, htaken r hr]
    rfl
  · rw [covering_eq_nil hl, covering_eq_nil h]
    rfl

end RuleList

namespace SourceFilter

variable {root : Path} {isDirectory : Path → Bool} {included excluded : List Text}
  {taken left rules : List GlobRule} {compiler : SetCompiler} {filter : SourceFilter}

/-- The rules of two lists are those of the included patterns, and behind them those of the
excluded ones. -/
theorem allRules_eq_ok_iff :
    allRules root isDirectory included excluded = .ok rules ↔
      ∃ taken left, rulesOf root isDirectory .included included = .ok taken ∧
        rulesOf root isDirectory .excluded excluded = .ok left ∧ rules = taken ++ left := by
  unfold allRules
  cases ht : rulesOf root isDirectory .included included with
  | error f => exact ⟨fun h => (nomatch h), fun ⟨_, _, h, _⟩ => (nomatch h)⟩
  | ok taken =>
      cases hl : rulesOf root isDirectory .excluded excluded with
      | error f => exact ⟨fun h => (nomatch h), fun ⟨_, _, _, h, _⟩ => (nomatch h)⟩
      | ok left =>
          constructor
          · intro h
            cases h
            exact ⟨taken, left, rfl, rfl, rfl⟩
          · rintro ⟨_, _, ⟨⟩, ⟨⟩, rfl⟩
            rfl

/-- What comes of two lists whose rules are known: the filter with these rules, unless they are
refused. -/
theorem ofPatterns_of_allRules (h : allRules root isDirectory included excluded = .ok rules)
    (compiler : SetCompiler) :
    ofPatterns root isDirectory included excluded compiler =
      match compiler.refusal rules with
      | some reason => .error (.refused reason)
      | none => .ok ⟨⟨root, rules⟩⟩ := by
  unfold ofPatterns
  rw [h]
  rfl

/-- **The filter of two lists** has their rules, and they are not refused. -/
theorem ofPatterns_eq_ok_iff :
    ofPatterns root isDirectory included excluded compiler = .ok filter ↔
      ∃ rules, allRules root isDirectory included excluded = .ok rules ∧
        compiler.refusal rules = none ∧ filter = ⟨⟨root, rules⟩⟩ := by
  cases h : allRules root isDirectory included excluded with
  | error f =>
      unfold ofPatterns
      rw [h]
      exact ⟨fun h => (nomatch h), fun ⟨_, h, _⟩ => (nomatch h)⟩
  | ok rules =>
      rw [ofPatterns_of_allRules h]
      constructor
      · intro hok
        split at hok
        · cases hok
        · next hnone =>
          cases hok
          exact ⟨rules, rfl, hnone, rfl⟩
      · rintro ⟨_, ⟨⟩, hnone, rfl⟩
        rw [hnone]

/-- **Why two lists make no filter**: the fault names a pattern that is no glob, with its list, or
all are globs and it gives the reason why their rules are refused. -/
theorem of_ofPatterns_eq_error {fault : PatternFault}
    (h : ofPatterns root isDirectory included excluded compiler = .error fault) :
    (∃ role patterns, (role, patterns) ∈ [(PatternRole.included, included), (.excluded, excluded)] ∧
        ∃ pattern ∈ patterns, ∃ glob reason, globOf root isDirectory role pattern = some glob ∧
          GlobRule.ofLine .refused glob = .error reason ∧
            fault = .malformed role pattern reason) ∨
      ∃ rules reason, allRules root isDirectory included excluded = .ok rules ∧
        compiler.refusal rules = some reason ∧ fault = .refused reason := by
  cases hrules : allRules root isDirectory included excluded with
  | ok rules =>
      rw [ofPatterns_of_allRules hrules] at h
      cases hreason : compiler.refusal rules with
      | none => rw [hreason] at h; cases h
      | some reason =>
          rw [hreason] at h
          cases h
          exact Or.inr ⟨rules, reason, rfl, hreason, rfl⟩
  | error f =>
      refine Or.inl ?_
      rw [ofPatterns, hrules] at h
      cases h
      unfold allRules at hrules
      cases ht : rulesOf root isDirectory .included included with
      | error f =>
          rw [ht] at hrules
          cases hrules
          exact ⟨_, _, List.mem_cons_self, of_rulesOf_eq_error ht⟩
      | ok taken =>
          cases hl : rulesOf root isDirectory .excluded excluded with
          | error f =>
              rw [ht, hl] at hrules
              cases hrules
              exact ⟨_, _, List.mem_cons_of_mem _ List.mem_cons_self, of_rulesOf_eq_error hl⟩
          | ok left => rw [ht, hl] at hrules; cases hrules

/-- A pattern matches where its rule does. -/
theorem matches_iff_covered {role : PatternRole} {patterns : List Text} {rules : List GlobRule}
    (h : rulesOf root isDirectory role patterns = .ok rules) (path : Text) (asDirectory : Bool) :
    Matches root isDirectory role patterns path asDirectory ↔
      RuleList.Covered rules path asDirectory :=
  exists_congr fun r => and_congr_left' (mem_rulesOf h r).symm

/-- Some rule of a filter does not take back if one of the included patterns is about paths below
the root. -/
theorem any_not_isNegated_iff (ht : rulesOf root isDirectory .included included = .ok taken)
    (hleft : ∀ r ∈ left, r.isNegated = true) :
    (taken ++ left).any (fun r => !r.isNegated) = true ↔ HasGlob root isDirectory included := by
  rw [← not_iff_not, ← rulesOf_included_eq_nil_iff ht, Bool.not_eq_true, List.any_eq_false]
  constructor
  · refine fun hall => List.eq_nil_iff_forall_not_mem.mpr fun r hr => ?_
    have htaken : r.isNegated = false := isNegated_of_isRuleOf ((mem_rulesOf ht r).mp hr)
    exact hall r (List.mem_append_left left hr) (by rw [htaken]; rfl)
  · rintro rfl r hr
    rw [List.nil_append] at hr
    rw [hleft r hr]
    exact Bool.false_ne_true

/-- **The filter of two lists of patterns** leaves what an excluded pattern matches, and takes what
else an included one matches.  Any other path is left unless it is a directory, or no included
pattern is about paths below the root: then nothing is said. -/
theorem verdict_ofPatterns {rs names : List Text}
    (h : ofPatterns (ofNames rs) isDirectory included excluded compiler = .ok filter)
    (hnames : AreNames names) (hne : names ≠ []) (asDirectory : Bool) :
    let isMatched (role : PatternRole) (patterns : List Text) :=
      Matches (ofNames rs) isDirectory role patterns (joinSegments names) asDirectory
    let verdict := filter.verdict (ofNames (rs ++ names)) asDirectory
    (isMatched .excluded excluded → verdict = some .ignored) ∧
      (¬ isMatched .excluded excluded → isMatched .included included → verdict = some .kept) ∧
      (¬ isMatched .excluded excluded → ¬ isMatched .included included →
        asDirectory = false → HasGlob (ofNames rs) isDirectory included →
          verdict = some .ignored) ∧
      (¬ isMatched .excluded excluded → ¬ isMatched .included included →
        (asDirectory = true ∨ ¬ HasGlob (ofNames rs) isDirectory included) →
          verdict = none) := by
  obtain ⟨_, hrules, -, rfl⟩ := ofPatterns_eq_ok_iff.mp h
  obtain ⟨taken, left, ht, hl, rfl⟩ := allRules_eq_ok_iff.mp hrules
  have htaken : ∀ r ∈ taken, r.isNegated = false := fun r hr =>
    isNegated_of_isRuleOf ((mem_rulesOf ht r).mp hr)
  have hleft : ∀ r ∈ left, r.isNegated = true := fun r hr =>
    isNegated_of_isRuleOf ((mem_rulesOf hl r).mp hr)
  have hpath := RuleList.relative_ofNames rs hnames hne (taken ++ left)
  obtain ⟨hkept, hignored, hnone⟩ := RuleList.verdict_append asDirectory htaken hleft hpath
  have hany := any_not_isNegated_iff ht hleft
  simp only [matches_iff_covered ht, matches_iff_covered hl]
  unfold SourceFilter.verdict
  simp only
  refine ⟨fun h => ?_, fun hl h => ?_, fun hl h hfile hglob => ?_, fun hl h hnothing => ?_⟩
  · rw [hkept h]
  · rw [hignored hl h]
  · rw [hnone hl h]
    simp only
    rw [hany.mpr hglob, hfile]
    rfl
  · rw [hnone hl h]
    simp only
    rw [if_neg]
    rw [Bool.and_eq_true, hany, Bool.not_eq_true']
    rintro ⟨hglob, hfile⟩
    rcases hnothing with hdirectory | hnoglob
    · rw [hfile] at hdirectory
      cases hdirectory
    · exact hnoglob hglob

end SourceFilter

end ImportLint
