import ImportLint.Glob.Match
import ImportLint.Proofs.Glob.Reading

/-!
# Globs — what a pattern covers

A path is matched as the bytes of its characters.  No character's bytes begin those of another
one, so characters that stand for themselves cover exactly these characters.

* `bytesOf_append`, `eq_append_of_bytesOf`: beginnings of texts and of their bytes.
* `mem_rests_literals`: what is left after a text that stands for itself.
* `covers_directory_iff`: a text and all that is below it covers the paths that go on behind the
  text with a slash.
* `covers_leading`: the pattern for all there is.
-/

namespace ImportLint.Glob

/-! ### Bytes of a text -/

theorem bytesOf_append (t u : Text) : bytesOf (t ++ u) = bytesOf t ++ bytesOf u :=
  List.flatMap_append

/-- The bytes of a character tell it, whatever follows them. -/
theorem eq_of_utf8EncodeChar_append {c d : Char} {bs bs' : Bytes}
    (h : String.utf8EncodeChar c ++ bs = String.utf8EncodeChar d ++ bs') : c = d ∧ bs = bs' := by
  have hdecode : ∀ (c : Char) (bs : Bytes),
      (String.utf8EncodeChar c ++ bs).toByteArray.utf8DecodeChar? 0 = some c := fun c bs => by
    rw [List.toByteArray_append]
    exact ByteArray.utf8DecodeChar?_utf8EncodeChar_append
  have hc : c = d := Option.some.inj (by rw [← hdecode c bs, h, hdecode d bs'])
  subst hc
  exact ⟨rfl, List.append_cancel_left h⟩

/-- A text whose bytes begin with those of another one begins with that one. -/
theorem eq_append_of_bytesOf {t path : Text} {bs : Bytes} (h : bytesOf path = bytesOf t ++ bs) :
    ∃ rest, path = t ++ rest ∧ bytesOf rest = bs := by
  induction t generalizing path with
  | nil => exact ⟨path, rfl, h⟩
  | cons c t ih =>
      rw [bytesOf, bytesOf, List.flatMap_cons, List.append_assoc] at h
      cases path with
      | nil =>
          have hlen := congrArg List.length h
          rw [List.flatMap_nil, List.length_nil, List.length_append,
            String.length_utf8EncodeChar] at hlen
          have := c.utf8Size_pos
          omega
      | cons d path =>
          rw [List.flatMap_cons] at h
          obtain ⟨rfl, htail⟩ := eq_of_utf8EncodeChar_append h
          obtain ⟨rest, rfl, hrest⟩ := ih htail
          exact ⟨rest, rfl, hrest⟩

/-! ### What is left -/

theorem mem_rests_cons {token : Token} {tokens : List Token} {bs left : Bytes} :
    left ∈ rests (token :: tokens) bs ↔
      ∃ after ∈ tokenRests token bs, left ∈ rests tokens after := by
  rw [rests, List.mem_eraseDups, List.mem_flatMap]

theorem mem_rests_nil {bs left : Bytes} : left ∈ rests [] bs ↔ left = bs := by
  rw [rests, List.mem_singleton]

theorem mem_tokenRests_literal {c : Char} {bs after : Bytes} :
    after ∈ tokenRests (.literal c) bs ↔ bs = bytesOf [c] ++ after := by
  rw [tokenRests]
  split
  · next h =>
    obtain ⟨rest, rfl⟩ := List.isPrefixOf_iff_prefix.mp h
    rw [List.drop_left, List.mem_singleton, List.append_cancel_left_eq, eq_comm]
  · next h =>
    refine ⟨fun h => (nomatch h), fun he => absurd ?_ h⟩
    exact List.isPrefixOf_iff_prefix.mpr ⟨after, he.symm⟩

/-- **What is left after a text** that stands for itself. -/
theorem mem_rests_literals {t : Text} {tokens : List Token} {bs left : Bytes} :
    left ∈ rests (t.map .literal ++ tokens) bs ↔
      ∃ after, bs = bytesOf t ++ after ∧ left ∈ rests tokens after := by
  induction t generalizing bs with
  | nil => exact ⟨fun h => ⟨bs, rfl, h⟩, fun ⟨_, he, h⟩ => he ▸ h⟩
  | cons c t ih =>
      rw [List.map_cons, List.cons_append, mem_rests_cons]
      simp only [mem_tokenRests_literal, ih]
      constructor
      · rintro ⟨_, rfl, after, rfl, h⟩
        refine ⟨after, ?_, h⟩
        rw [← List.append_assoc, ← bytesOf_append]
        rfl
      · rintro ⟨after, rfl, h⟩
        refine ⟨bytesOf t ++ after, ?_, after, rfl, h⟩
        rw [← List.append_assoc, ← bytesOf_append]
        rfl

/-! ### Everything below a directory -/

/-- What follows the last slash holds none. -/
theorem exists_mem_afterSlashes {bs : Bytes} (h : slash ∈ bs) :
    ∃ after ∈ afterSlashes bs, slash ∉ after := by
  induction bs with
  | nil => cases h
  | cons b bs ih =>
      by_cases hlater : slash ∈ bs
      · obtain ⟨after, hmem, hfree⟩ := ih hlater
        refine ⟨after, ?_, hfree⟩
        rw [afterSlashes]
        split
        · exact List.mem_cons_of_mem _ hmem
        · exact hmem
      · have hb : b = slash := ((List.mem_cons.mp h).resolve_right hlater).symm
        refine ⟨bs, ?_, hlater⟩
        rw [afterSlashes, if_pos hb]
        exact List.mem_cons_self

theorem nil_mem_afterRun {bs : Bytes} (h : slash ∉ bs) : [] ∈ afterRun bs := by
  induction bs with
  | nil => exact List.mem_singleton_self _
  | cons b bs ih =>
      obtain ⟨hb, hbs⟩ : slash ≠ b ∧ slash ∉ bs := by simpa using h
      rw [afterRun, if_neg hb.symm]
      exact List.mem_cons_of_mem _ (ih hbs)

/-- A run to the end goes on from a place behind all slashes. -/
theorem nil_mem_rests_anyRun (bs : Bytes) :
    ∃ after ∈ bs :: afterSlashes bs, [] ∈ rests [.anyRun] after := by
  have hrun : ∀ {after : Bytes}, slash ∉ after → [] ∈ rests [.anyRun] after := fun h =>
    mem_rests_cons.mpr ⟨[], by rw [tokenRests]; exact nil_mem_afterRun h, mem_rests_nil.mpr rfl⟩
  by_cases h : slash ∈ bs
  · obtain ⟨after, hmem, hfree⟩ := exists_mem_afterSlashes h
    exact ⟨after, List.mem_cons_of_mem _ hmem, hrun hfree⟩
  · exact ⟨bs, List.mem_cons_self, hrun h⟩

theorem nil_mem_rests_belowTokens {bs : Bytes} :
    [] ∈ rests belowTokens bs ↔ ∃ after, bs = slash :: after := by
  rw [belowTokens, mem_rests_cons]
  constructor
  · rintro ⟨after, hmem, -⟩
    cases bs with
    | nil => rw [tokenRests] at hmem; cases hmem
    | cons b bs =>
        rw [tokenRests] at hmem
        split at hmem
        · next hb => exact ⟨bs, by rw [hb]⟩
        · cases hmem
  · rintro ⟨bs, rfl⟩
    obtain ⟨after, hmem, hrun⟩ := nil_mem_rests_anyRun bs
    refine ⟨after, ?_, hrun⟩
    rw [tokenRests]
    exact hmem

/-- Tokens cover a path if they can leave nothing of it. -/
theorem covers_iff {tokens : List Token} (h : tokens ≠ [.leadingDirectories]) {path : Text} :
    covers tokens path = true ↔ [] ∈ rests tokens (bytesOf path) := by
  unfold covers
  split
  · exact absurd rfl h
  · rw [List.any_eq_true]
    exact ⟨fun ⟨left, hmem, hl⟩ => List.isEmpty_iff.mp hl ▸ hmem, fun h => ⟨[], h, rfl⟩⟩

/-- **A text and all that is below it** covers the paths that go on with a slash behind the
text. -/
theorem covers_directory_iff {t path : Text} :
    covers (t.map .literal ++ belowTokens) path = true ↔ ∃ rest, path = t ++ '/' :: rest := by
  have hne : t.map .literal ++ belowTokens ≠ [.leadingDirectories] := by
    intro h
    have hlast := congrArg List.getLast? h
    rw [belowTokens, List.getLast?_append] at hlast
    cases hlast
  rw [covers_iff hne, mem_rests_literals]
  simp only [nil_mem_rests_belowTokens]
  constructor
  · rintro ⟨_, hbytes, after, rfl⟩
    obtain ⟨rest, rfl, hrest⟩ := eq_append_of_bytesOf hbytes
    have hslash : bytesOf rest = bytesOf ['/'] ++ after := hrest
    obtain ⟨rest', rfl, -⟩ := eq_append_of_bytesOf hslash
    exact ⟨rest', rfl⟩
  · rintro ⟨rest, rfl⟩
    exact ⟨_, bytesOf_append _ _, bytesOf rest, rfl⟩

/-- The pattern for all there is covers every path. -/
theorem covers_leading (path : Text) : covers [.leadingDirectories, .anyRun] path = true := by
  rw [covers_iff (by simp), mem_rests_cons]
  obtain ⟨after, hmem, hrun⟩ := nil_mem_rests_anyRun (bytesOf path)
  refine ⟨after, ?_, hrun⟩
  rw [tokenRests]
  exact hmem

end ImportLint.Glob
