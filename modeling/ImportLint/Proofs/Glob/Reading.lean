import ImportLint.Project.Patterns

/-!
# Globs — how a pattern is read

A pattern is read from left to right.  What comes next matters for stars, brackets and escapes
alone, so a beginning without stars and brackets is read as it would be by itself.  A text without
any special characters is read as itself.

* `Reading.take`, `feed_cons`: one character that needs no look ahead.
* `feed_append`: a beginning that can be read is read first.
* `feed_everything`: the end of a pattern for all that is below a directory.
* `parse_directory`, `parse_append_everything`: such a pattern as a whole.
-/

namespace ImportLint.Glob

/-- A character that stands for itself wherever no alternative is open. -/
def isPlain (c : Char) : Bool := ! List.contains ['?', '*', '[', '\x7b', '\x7d', '\\'] c

variable {policy : OpenClass} {r r' : Reading} {previous : Option Char}

/-! ### One character -/

/-- Reads a character that needs no look ahead. -/
def Reading.take (r : Reading) (c : Char) : Except GlobFault Reading :=
  match c with
  | '?' => .ok (r.push .anyByte)
  | '\x7b' => .ok r.openGroup
  | '\x7d' => r.closeGroup
  | ',' => .ok r.comma
  | c => .ok (r.push (.literal c))

theorem feed_nil : feed policy r previous [] = .ok r := by rw [feed]

theorem feed_cons (hs : r.scan = none) {c : Char} (hstar : c ≠ '*') (hbracket : c ≠ '[')
    (hescape : c ≠ '\\') (cs : Text) :
    feed policy r previous (c :: cs) =
      (r.take c).bind fun r' => feed policy r' (some c) cs := by
  conv =>
    lhs
    rw [feed.eq_def]
  simp only [hs]
  split
  · rfl
  · exact absurd rfl hstar
  · exact absurd rfl hstar
  · exact absurd rfl hstar
  · exact absurd rfl hstar
  · exact absurd rfl hbracket
  · rfl
  · rw [show r.take '\x7d' = r.closeGroup from rfl]
    cases r.closeGroup <;> rfl
  · rfl
  · exact absurd rfl hescape
  · exact absurd rfl hescape
  · rw [Reading.take]
    · rfl
    all_goals assumption

theorem feed_escape (hs : r.scan = none) (d : Char) (cs : Text) :
    feed policy r previous ('\\' :: d :: cs) =
      feed policy (r.push (.literal d)) (some d) cs := by
  rw [feed]
  simp only [hs]

theorem feed_dangling (hs : r.scan = none) :
    feed policy r previous ['\\'] = .error .danglingEscape := by
  rw [feed]
  simp only [hs]

/-- Reading a character opens no class. -/
theorem scan_take {c : Char} (h : r.take c = .ok r') : r'.scan = r.scan := by
  unfold Reading.take at h
  split at h
  · cases h; rfl
  · cases h; rfl
  · unfold Reading.closeGroup at h
    split at h
    · cases h
    · cases h; rfl
  · cases h
    unfold Reading.comma
    split <;> rfl
  · cases h; rfl

/-! ### A beginning of a pattern -/

/-- **A beginning** without stars and brackets is read first, as it would be by itself. -/
theorem feed_append {t : Text} (ht : '*' ∉ t ∧ '[' ∉ t) (hs : r.scan = none)
    (h : feed policy r previous t = .ok r') (rest : Text) :
    r'.scan = none ∧ ∃ last, feed policy r previous (t ++ rest) = feed policy r' last rest := by
  -- an escape and the character behind it are read at once
  induction hn : t.length using Nat.strongRecOn generalizing t r previous with
  | ind n ih =>
    cases t with
    | nil =>
        rw [feed_nil] at h
        cases h
        exact ⟨hs, previous, rfl⟩
    | cons c cs =>
        obtain ⟨⟨hstar, hstars⟩, hbracket, hbrackets⟩ :
            ('*' ≠ c ∧ '*' ∉ cs) ∧ '[' ≠ c ∧ '[' ∉ cs := by simpa using ht
        by_cases hescape : c = '\\'
        · subst hescape
          cases cs with
          | nil =>
              rw [feed_dangling hs] at h
              cases h
          | cons d ds =>
              have hpush : (r.push (.literal d)).scan = none := hs
              rw [feed_escape hs] at h
              rw [List.cons_append, List.cons_append, feed_escape hs]
              have hrest : '*' ∉ ds ∧ '[' ∉ ds :=
                ⟨fun hm => hstars (List.mem_cons_of_mem d hm),
                  fun hm => hbrackets (List.mem_cons_of_mem d hm)⟩
              have hshorter : ds.length < n := by
                rw [← hn, List.length_cons, List.length_cons]
                omega
              exact ih ds.length hshorter hrest hpush h rfl
        · rw [feed_cons hs hstar.symm hbracket.symm hescape] at h
          rw [List.cons_append, feed_cons hs hstar.symm hbracket.symm hescape]
          cases htake : r.take c with
          | error e => rw [htake] at h; cases h
          | ok next =>
              rw [htake] at h
              exact ih cs.length (by rw [← hn, List.length_cons]; omega) ⟨hstars, hbrackets⟩
                ((scan_take htake).trans hs) h rfl

/-- A text without special characters is read as itself where no alternative is open. -/
theorem feed_plain {t : Text} (ht : ∀ c ∈ t, isPlain c = true) (hs : r.scan = none)
    (hg : r.groups = []) :
    feed policy r previous t = .ok { r with tokens := (t.map .literal).reverse ++ r.tokens } := by
  induction t generalizing r previous with
  | nil => exact feed_nil
  | cons c cs ih =>
      have hc : isPlain c = true := ht c List.mem_cons_self
      have htake : r.take c = .ok (r.push (.literal c)) := by
        unfold Reading.take
        split
        · cases hc
        · cases hc
        · cases hc
        · unfold Reading.comma
          rw [hg]
        · rfl
      have hne : ∀ d, isPlain d = false → c ≠ d := fun d hd e => by rw [e, hd] at hc; cases hc
      have hpush : (r.push (.literal c)).scan = none := hs
      rw [feed_cons hs (hne _ rfl) (hne _ rfl) (hne _ rfl), htake]
      change feed policy (r.push (.literal c)) (some c) cs = _
      rw [ih (fun d hd => ht d (List.mem_cons_of_mem c hd)) hpush hg, List.map_cons,
        List.reverse_cons, List.append_assoc]
      rfl

/-! ### Everything below a directory -/

/-- The tokens for everything below a directory. -/
def belowTokens : List Token := [.innerDirectories, .anyRun]

/-- **The end of a pattern** for all that is below a directory takes the slash with it. -/
theorem feed_everything (hs : r.scan = none) :
    feed policy r previous ('/' :: everything) =
      .ok { r with tokens := belowTokens.reverse ++ r.tokens } := by
  have hslash : feed policy r previous ('/' :: everything) =
      feed policy (r.push (.literal '/')) (some '/') everything :=
    feed_cons hs (by decide) (by decide) (by decide) everything
  have hstars : feed policy (r.push (.literal '/')) (some '/') everything =
      feed policy (r.push .innerDirectories) (some '/') ['*'] := by
    rw [everything, feed]
    simp only [show (r.push (.literal '/')).scan = none from hs]
    rfl
  have hlast : feed policy (r.push .innerDirectories) (some '/') ['*'] =
      feed policy ((r.push .innerDirectories).push .anyRun) (some '*') [] := by
    rw [feed.eq_def]
    simp only [show (r.push .innerDirectories).scan = none from hs]
  rw [hslash, hstars, hlast, feed_nil]
  rfl

/-! ### Patterns -/

/-- A pattern can be read if no alternative is left open. -/
theorem parse_eq_ok_iff {t : Text} {tokens : List Token} :
    parse policy t = .ok tokens ↔
      ∃ r, feed policy {} none t = .ok r ∧ r.groups = [] ∧ r.tokens.reverse = tokens := by
  unfold parse
  cases hfeed : feed policy {} none t with
  | error e => exact ⟨fun h => (nomatch h), fun ⟨_, h, _⟩ => (nomatch h)⟩
  | ok r =>
      change r.finish = _ ↔ _
      unfold Reading.finish
      cases hg : r.groups with
      | nil => simp [hg]
      | cons g gs => simp [hg]

/-- A text without special characters, and everything below it. -/
theorem parse_directory {t : Text} (ht : ∀ c ∈ t, isPlain c = true) :
    parse policy (t ++ '/' :: everything) = .ok (t.map .literal ++ belowTokens) := by
  have hfree : '*' ∉ t ∧ '[' ∉ t :=
    ⟨fun hm => absurd (ht _ hm) (by decide), fun hm => absurd (ht _ hm) (by decide)⟩
  have hplain : feed policy {} none t = .ok { tokens := (t.map .literal).reverse ++ [] } :=
    feed_plain ht rfl rfl
  obtain ⟨hs, last, happend⟩ := feed_append hfree rfl hplain ('/' :: everything)
  refine parse_eq_ok_iff.mpr ⟨_, happend.trans (feed_everything hs), rfl, ?_⟩
  rw [List.append_nil, ← List.reverse_append, List.reverse_reverse]

/-- A slash that is escaped can follow a pattern. -/
theorem parse_append_escape {t : Text} (ht : '*' ∉ t ∧ '[' ∉ t) {tokens : List Token}
    (h : parse policy t = .ok tokens) : ∃ more, parse policy (t ++ ['\\', '/']) = .ok more := by
  obtain ⟨r, hfeed, hg, -⟩ := parse_eq_ok_iff.mp h
  obtain ⟨hs, last, happend⟩ := feed_append ht rfl hfeed ['\\', '/']
  rw [feed_escape hs, feed_nil] at happend
  exact ⟨_, parse_eq_ok_iff.mpr ⟨_, happend, hg, rfl⟩⟩

/-- **A pattern that can be read** can also be read with plain characters behind it, and with all
that is below a directory. -/
theorem parse_append_everything {t : Text} (ht : '*' ∉ t ∧ '[' ∉ t) {tokens : List Token}
    (h : parse policy t = .ok tokens) {tail : Text} (htail : ∀ c ∈ tail, isPlain c = true) :
    ∃ more, parse policy (t ++ (tail ++ '/' :: everything)) = .ok more := by
  obtain ⟨r, hfeed, hg, -⟩ := parse_eq_ok_iff.mp h
  obtain ⟨hs, last, happend⟩ := feed_append ht rfl hfeed (tail ++ '/' :: everything)
  have hfree : '*' ∉ tail ∧ '[' ∉ tail :=
    ⟨fun hm => absurd (htail _ hm) (by decide), fun hm => absurd (htail _ hm) (by decide)⟩
  obtain ⟨hs', last', hrest⟩ := feed_append hfree hs (feed_plain htail hs hg) ('/' :: everything)
  exact ⟨_, parse_eq_ok_iff.mpr
    ⟨_, happend.trans (hrest.trans (feed_everything hs')), hg, rfl⟩⟩

end ImportLint.Glob
