import ImportLint.Proofs.Path.Names
import ImportLint.Proofs.Text.Parts

/-!
# Paths — the last segment of a spelling

An ending is put behind the spelling of a path, whatever the spelling ends with.  Of a path that
ends with a slash the last segment is empty, and the ending alone becomes the name of a file
below the path.

* `Path.leading`, `Path.lastSegment`: a spelling cut behind its last slash.
* `components_withSuffix`, `fileName_withSuffix`: what a path with an ending names.
* `components_eq_leading`: what an absolute path names, in the two parts.
-/

namespace ImportLint.Path

/-- The spelling up to its last slash. -/
def leading (p : Path) : Path := ⟨p.chars.rdropWhile (· ≠ '/')⟩

/-- What stands behind the last slash of the spelling. -/
def lastSegment (p : Path) : Text := p.chars.rtakeWhile (· ≠ '/')

theorem leading_append_lastSegment (p : Path) : p.leading.chars ++ p.lastSegment = p.chars :=
  List.rdropWhile_append_rtakeWhile

theorem slash_not_mem_lastSegment (p : Path) : '/' ∉ p.lastSegment := by
  intro h
  have hne := List.mem_rtakeWhile_imp h
  simp at hne

/-- A spelling up to its last slash ends with the slash, or there is none. -/
theorem leading_cases (p : Path) : p.leading.chars = [] ∨ ∃ a, p.leading.chars = a ++ ['/'] :=
  p.chars.rdropWhile_cases '/'

theorem leading_append_slash (a : Text) {n : Text} (h : '/' ∉ n) :
    leading ⟨a ++ '/' :: n⟩ = ⟨a ++ ['/']⟩ := by
  refine congrArg Path.mk ?_
  induction n using List.reverseRecOn with
  | nil => exact List.rdropWhile_concat_neg _ _ '/' (by simp)
  | append_singleton m c ih =>
      obtain ⟨hm, hc⟩ : '/' ∉ m ∧ '/' ≠ c := by simpa using h
      rw [← List.cons_append, ← List.append_assoc,
        List.rdropWhile_concat_pos _ _ c (by simpa using Ne.symm hc)]
      exact ih hm

/-- Behind a last slash a segment is joined without another one. -/
theorem leading_join_name (p : Path) {n : Text} (h : '/' ∉ n) :
    p.leading.join ⟨n⟩ = ⟨p.leading.chars ++ n⟩ := by
  rw [join, isAbsolute_of_slash_not_mem h, if_neg Bool.false_ne_true]
  obtain hnil | ⟨a, ha⟩ := p.leading_cases
  · rw [hnil]
    rfl
  · rw [ha, List.getLast?_append]
    rfl

/-! ### Endings -/

/-- An ending becomes a part of the last segment. -/
theorem withSuffix_eq_join (p : Path) {suffix : Text} (h : '/' ∉ suffix) :
    p.withSuffix suffix = p.leading.join ⟨p.lastSegment ++ suffix⟩ := by
  have hslash : '/' ∉ p.lastSegment ++ suffix := fun hm =>
    (List.mem_append.mp hm).elim p.slash_not_mem_lastSegment h
  rw [p.leading_join_name hslash, ← List.append_assoc, leading_append_lastSegment]
  rfl

/-- A segment is a name unless it is empty or dots that lead elsewhere. -/
theorem isName_of_ne {n : Text} (h : '/' ∉ n) (hnil : n ≠ []) (hdot : n ≠ ['.'])
    (hup : n ≠ ['.', '.']) : IsName n := by
  refine ⟨?_, h⟩
  change Component.ofSegment n = some (.name n)
  unfold Component.ofSegment
  split
  · exact absurd rfl hnil
  · exact absurd rfl hdot
  · exact absurd rfl hup
  · rfl

/-- A segment of three characters or more is no dots that lead elsewhere. -/
theorem isName_of_length {n : Text} (h : '/' ∉ n) (hl : 3 ≤ n.length) : IsName n := by
  refine isName_of_ne h ?_ ?_ ?_ <;>
    (rintro rfl
     simp at hl)

theorem isName_lastSegment_append (p : Path) {suffix : Text} (h : '/' ∉ suffix)
    (hl : 3 ≤ suffix.length) : IsName (p.lastSegment ++ suffix) := by
  refine isName_of_length (fun hm => ?_) (by rw [List.length_append]; omega)
  exact (List.mem_append.mp hm).elim p.slash_not_mem_lastSegment h

/-- **A path with an ending** names a file in the directory before its last slash. -/
theorem components_withSuffix (p : Path) {suffix : Text} (h : '/' ∉ suffix)
    (hl : 3 ≤ suffix.length) :
    (p.withSuffix suffix).components =
      p.leading.components ++ [.name (p.lastSegment ++ suffix)] := by
  rw [p.withSuffix_eq_join h, components_join_name _ (p.isName_lastSegment_append h hl)]

theorem fileName_withSuffix (p : Path) {suffix : Text} (h : '/' ∉ suffix)
    (hl : 3 ≤ suffix.length) :
    (p.withSuffix suffix).fileName = some (p.lastSegment ++ suffix) := by
  rw [fileName, p.components_withSuffix h hl, List.getLast?_concat]

/-- The file name of a path is the last of its names. -/
theorem isName_of_fileName {p : Path} {n : Text} (h : p.fileName = some n) : IsName n := by
  unfold fileName at h
  split at h
  · next m hlast =>
    cases h
    exact areNames_names p n (List.mem_filterMap.mpr ⟨_, List.mem_of_getLast? hlast, rfl⟩)
  · cases h

/-! ### The two parts of an absolute path -/

theorem chars_ne_nil_of_isAbsolute {p : Path} (h : p.isAbsolute = true) : p.chars ≠ [] := by
  obtain ⟨cs, hcs⟩ := isAbsolute_iff.mp h
  rw [hcs]
  exact List.cons_ne_nil _ _

theorem leading_join_lastSegment (p : Path) : p.leading.join ⟨p.lastSegment⟩ = p := by
  rw [p.leading_join_name p.slash_not_mem_lastSegment, leading_append_lastSegment]

theorem isAbsolute_leading {p : Path} (h : p.isAbsolute = true) : p.leading.isAbsolute = true := by
  obtain ⟨cs, hcs⟩ := isAbsolute_iff.mp h
  have hparts := p.leading_append_lastSegment
  cases hl : p.leading.chars with
  | nil =>
      -- then the whole spelling is its last segment, which holds no slash
      rw [hl, hcs, List.nil_append] at hparts
      exact absurd (by rw [hparts]; exact List.mem_cons_self) p.slash_not_mem_lastSegment
  | cons c l =>
      rw [hl, hcs] at hparts
      exact isAbsolute_iff.mpr ⟨l, by rw [hl, (List.cons.inj hparts).1]⟩

theorem isAbsolute_of_leading {p : Path} (h : p.leading.isAbsolute = true) :
    p.isAbsolute = true := by
  obtain ⟨cs, hcs⟩ := isAbsolute_iff.mp h
  exact isAbsolute_iff.mpr ⟨cs ++ p.lastSegment, by rw [← leading_append_lastSegment, hcs]; rfl⟩

/-- **An absolute path** names what its leading part names, and what its last segment does. -/
theorem components_eq_leading {p : Path} (h : p.isAbsolute = true) :
    p.components = p.leading.components ++ named p.lastSegment := by
  have hjoin := components_join (isAbsolute_of_slash_not_mem p.slash_not_mem_lastSegment)
    (chars_ne_nil_of_isAbsolute (isAbsolute_leading h))
  rw [leading_join_lastSegment] at hjoin
  exact hjoin

/-- A name is joined behind the last slash of the join. -/
theorem components_leading_join {p : Path} (hp : p.chars ≠ []) {n : Text} (hn : '/' ∉ n) :
    (p.join ⟨n⟩).leading.components = p.components := by
  obtain ⟨a, ha, hj⟩ := chars_join (isAbsolute_of_slash_not_mem hn) hp
  rw [show p.join ⟨n⟩ = ⟨a ++ '/' :: n⟩ from congrArg Path.mk hj, leading_append_slash a hn]
  rcases ha with ha | ha
  · rw [components_eq, front_append_slash_nil (ha ▸ hp), named_append_slash, named_nil,
      List.append_nil, ← ha, ← components_eq]
  · rw [← ha]

end ImportLint.Path
