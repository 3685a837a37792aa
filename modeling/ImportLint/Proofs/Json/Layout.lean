import ImportLint.Proofs.Json.Reading

/-!
# JSON — the lines of what is printed

A printed value is told by its lines.  What an array or an object holds stands on lines of its
own, one level further in than the line that opens it and the one that closes it; all else stands
on one line.  Strings do not disturb this, whatever they hold, since all control characters in
them are escaped.

* `inQuotes`: how a string is written.
* `layout`: the lines of a value.
* `arePlain_layout`: there are no control characters in them.
* `splitOn_pretty`: a printed document has these lines.
-/

namespace ImportLint.Json

/-- Induction over a value: a property of what an array or an object holds passes to it. -/
@[elab_as_elim]
theorem induction_on {motive : Json → Prop} (null : motive .null) (bool : ∀ b, motive (.bool b))
    (number : ∀ d, motive (.number d)) (string : ∀ t, motive (.string t))
    (array : ∀ vs, (∀ v ∈ vs, motive v) → motive (.array vs))
    (object : ∀ ms : List (Text × Json), (∀ m ∈ ms, motive m.2) → motive (.object ms)) :
    ∀ v, motive v
  | .null => null
  | .bool b => bool b
  | .number d => number d
  | .string t => string t
  | .array vs => array vs fun v _ => induction_on null bool number string array object v
  | .object ms => object ms fun m _ => induction_on null bool number string array object m.2
termination_by v => sizeOf v
decreasing_by
  · next hv =>
    have := List.sizeOf_lt_of_mem hv
    rw [Json.array.sizeOf_spec]
    omega
  · next hm =>
    have := List.sizeOf_lt_of_mem hm
    obtain ⟨k, v⟩ := m
    rw [Prod.mk.sizeOf_spec] at this
    rw [Json.object.sizeOf_spec]
    change sizeOf v < _
    omega

/-! ### Escapes -/

/-- The characters that have a short escape, with the letters of these. -/
def shortEscapes : List (Char × Char) := [
  ('"', '"'), ('\\', '\\'), ('\x08', 'b'), ('\x0c', 'f'), ('\n', 'n'), ('\r', 'r'), ('\t', 't')]

/-- How a character stands in a string: with a short escape, if there is one; as four hexadecimal
digits, if it is another control character; and else as it is. -/
def inString (c : Char) : Text :=
  match shortEscapes.lookup c with
  | some letter => ['\\', letter]
  | none =>
    if c.toNat < 32 then
      ['\\', 'u', '0', '0', (c.toNat / 16).digitChar, (c.toNat % 16).digitChar]
    else [c]

/-- A string with its quotes and escapes. -/
def inQuotes (t : Text) : Text := '"' :: t.flatMap inString ++ ['"']

theorem hexDigit_eq_digitChar : ∀ n < 16, hexDigit n = n.digitChar := by decide

theorem escapeChar_eq (c : Char) : escapeChar c = inString c := by
  have hofNat := Char.ofNat_toNat c
  unfold escapeChar
  split
  · rfl
  · rfl
  · rfl
  · rfl
  · rfl
  · next hquote hslash hline hreturn htab =>
    split
    · next h => rw [← hofNat, h]; rfl
    · split
      · next h => rw [← hofNat, h]; rfl
      · next hback hfeed =>
        have hback : c ≠ '\x08' := by rintro rfl; exact hback rfl
        have hfeed : c ≠ '\x0c' := by rintro rfl; exact hfeed rfl
        have hlookup : shortEscapes.lookup c = none := by
          simpa [shortEscapes, hback, hfeed] using ⟨hquote, hslash, hline, hreturn, htab⟩
        rw [inString, hlookup]
        simp only
        split
        · next h =>
          rw [hexDigit_eq_digitChar _ (by omega), hexDigit_eq_digitChar _ (by omega)]
        · rfl

/-- **Strings** are written with these escapes. -/
theorem quote_eq (t : Text) : quote t = inQuotes t := by
  rw [quote, inQuotes, show escapeChar = inString from funext escapeChar_eq]

/-! ### Lines -/

/-- A line at a level of nesting. -/
def lineAt (level : Nat) (text : Text) : Text := List.replicate (2 * level) ' ' ++ text

/-- What stands behind a part of an array or an object if there are more parts. -/
def comma {α : Type} (others : List α) : Text := if others.isEmpty then [] else [',']

/-- Lines between one that opens them and one that closes them, or one line that does both if there
are none. -/
def block (level : Nat) (lead trail : Text) (opening closing : Char) (lines : List Text) :
    List Text :=
  if lines.isEmpty then [lineAt level (lead ++ [opening, closing] ++ trail)]
  else lineAt level (lead ++ [opening]) :: lines ++ [lineAt level (closing :: trail)]

mutual

/-- The lines of a value, with what stands before it on its first line and behind it on its last
one. -/
def layout (level : Nat) (lead trail : Text) : Json → List Text
  | .null => [lineAt level (lead ++ ['n', 'u', 'l', 'l'] ++ trail)]
  | .bool true => [lineAt level (lead ++ ['t', 'r', 'u', 'e'] ++ trail)]
  | .bool false => [lineAt level (lead ++ ['f', 'a', 'l', 's', 'e'] ++ trail)]
  | .number d => [lineAt level (lead ++ printDecimal d ++ trail)]
  | .string t => [lineAt level (lead ++ inQuotes t ++ trail)]
  | .array vs => block level lead trail '[' ']' (layoutItems (level + 1) vs)
  | .object ms => block level lead trail '\x7b' '\x7d' (layoutMembers (level + 1) ms)

/-- The lines of the items of an array. -/
def layoutItems (level : Nat) : List Json → List Text
  | [] => []
  | v :: vs => layout level [] (comma vs) v ++ layoutItems level vs

/-- The lines of the members of an object. -/
def layoutMembers (level : Nat) : List (Text × Json) → List Text
  | [] => []
  | (k, v) :: ms => layout level (inQuotes k ++ [':', ' ']) (comma ms) v ++ layoutMembers level ms

end

theorem block_ne_nil (level : Nat) (lead trail : Text) (opening closing : Char)
    (lines : List Text) : block level lead trail opening closing lines ≠ [] := by
  unfold block
  split <;> exact List.cons_ne_nil _ _

theorem layout_ne_nil (level : Nat) (lead trail : Text) (v : Json) :
    layout level lead trail v ≠ [] := by
  cases v with
  | bool b => cases b <;> exact List.cons_ne_nil _ _
  | array vs => exact block_ne_nil level lead trail _ _ _
  | object ms => exact block_ne_nil level lead trail _ _ _
  | _ => exact List.cons_ne_nil _ _

theorem layoutItems_ne_nil (level : Nat) (v : Json) (vs : List Json) :
    layoutItems level (v :: vs) ≠ [] := by
  rw [layoutItems]
  exact List.append_ne_nil_of_left_ne_nil (layout_ne_nil level _ _ v) _

theorem layoutMembers_ne_nil (level : Nat) (m : Text × Json) (ms : List (Text × Json)) :
    layoutMembers level (m :: ms) ≠ [] := by
  rw [layoutMembers]
  exact List.append_ne_nil_of_left_ne_nil (layout_ne_nil level _ _ m.2) _

/-! ### What is printed -/

/-- Lines as one text. -/
def joinLines (lines : List Text) : Text := ['\n'].intercalate lines

theorem joinLines_singleton (line : Text) : joinLines [line] = line := List.intercalate_singleton

theorem joinLines_cons (line : Text) {lines : List Text} (h : lines ≠ []) :
    joinLines (line :: lines) = line ++ '\n' :: joinLines lines := by
  rw [joinLines, List.intercalate_cons_of_ne_nil h, List.append_assoc]
  rfl

theorem joinLines_append {first second : List Text} (hfirst : first ≠ []) (hsecond : second ≠ []) :
    joinLines (first ++ second) = joinLines first ++ '\n' :: joinLines second := by
  induction first with
  | nil => exact absurd rfl hfirst
  | cons line rest ih =>
      rw [List.cons_append, joinLines_cons line (List.append_ne_nil_of_right_ne_nil rest hsecond)]
      by_cases hrest : rest = []
      · rw [hrest, List.nil_append, joinLines_singleton]
      · rw [ih hrest, joinLines_cons line hrest, List.append_assoc, List.cons_append]

/-- What an array or an object holds is printed between the line that opens it and the one that
closes it. -/
theorem joinLines_block {level : Nat} (lead trail : Text) (opening closing : Char) {body : Text}
    {lines : List Text} (hne : lines ≠ []) (h : joinLines lines = lineAt (level + 1) body) :
    joinLines (block level lead trail opening closing lines) =
      lineAt level (lead ++ (opening :: newline (level + 1) ++ body ++ newline level ++ [closing])
        ++ trail) := by
  rw [block, if_neg (mt List.isEmpty_iff.mp hne), List.cons_append,
    joinLines_cons _ (List.append_ne_nil_of_left_ne_nil hne _),
    joinLines_append hne (List.cons_ne_nil _ _), h, joinLines_singleton]
  simp [lineAt, newline]

/-- A value is printed in its lines, whatever stands around it. -/
def IsLaidOut (level : Nat) (v : Json) : Prop :=
  ∀ lead trail,
    joinLines (layout level lead trail v) = lineAt level (lead ++ prettyAt level v ++ trail)

/-- Items are printed in their lines, one below the other. -/
theorem joinLines_layoutItems {level : Nat} {v : Json} {vs : List Json}
    (h : ∀ w ∈ v :: vs, IsLaidOut level w) :
    joinLines (layoutItems level (v :: vs)) =
      lineAt level (prettyAt level v ++ prettyItems level vs) := by
  induction vs generalizing v with
  | nil =>
      rw [layoutItems, layoutItems, List.append_nil, h v List.mem_cons_self, List.nil_append]
      rfl
  | cons w ws ih =>
      rw [layoutItems, joinLines_append (layout_ne_nil level _ _ v) (layoutItems_ne_nil level w ws),
        h v List.mem_cons_self, ih fun u hu => h u (List.mem_cons_of_mem v hu), prettyItems]
      simp [comma, lineAt, newline]

/-- Members are printed in their lines, one below the other. -/
theorem joinLines_layoutMembers {level : Nat} {k : Text} {v : Json} {ms : List (Text × Json)}
    (h : ∀ m ∈ (k, v) :: ms, IsLaidOut level m.2) :
    joinLines (layoutMembers level ((k, v) :: ms)) =
      lineAt level (quote k ++ [':', ' '] ++ prettyAt level v ++ prettyMembers level ms) := by
  induction ms generalizing k v with
  | nil =>
      rw [layoutMembers, layoutMembers, List.append_nil, h (k, v) List.mem_cons_self, quote_eq]
      rfl
  | cons m ms ih =>
      obtain ⟨k', v'⟩ := m
      rw [layoutMembers, joinLines_append (layout_ne_nil level _ _ v)
          (layoutMembers_ne_nil level (k', v') ms), h (k, v) List.mem_cons_self,
        ih fun u hu => h u (List.mem_cons_of_mem _ hu), prettyMembers]
      simp [comma, lineAt, newline, quote_eq]

/-- **A printed value** has its lines. -/
theorem isLaidOut (level : Nat) (v : Json) : IsLaidOut level v := by
  intro lead trail
  induction v using induction_on generalizing level lead trail with
  | null => rw [layout, joinLines_singleton, prettyAt]
  | bool b => cases b <;> rw [layout, joinLines_singleton, prettyAt]
  | number d => rw [layout, joinLines_singleton, prettyAt]
  | string t => rw [layout, joinLines_singleton, prettyAt, quote_eq]
  | array vs ih =>
      rw [layout]
      cases vs with
      | nil => rw [layoutItems, block, if_pos List.isEmpty_nil, joinLines_singleton, prettyAt]
      | cons v vs =>
          have hitems := joinLines_layoutItems fun w hw => ih w hw (level + 1)
          rw [joinLines_block lead trail _ _ (layoutItems_ne_nil _ v vs) hitems, prettyAt]
          simp only [List.append_assoc]
  | object ms ih =>
      rw [layout]
      cases ms with
      | nil => rw [layoutMembers, block, if_pos List.isEmpty_nil, joinLines_singleton, prettyAt]
      | cons m ms =>
          obtain ⟨k, v⟩ := m
          have hmembers := joinLines_layoutMembers fun m hm => ih m hm (level + 1)
          rw [joinLines_block lead trail _ _ (layoutMembers_ne_nil _ (k, v) ms) hmembers, prettyAt]
          simp only [List.append_assoc]

/-! ### No control characters -/

/-- There are no control characters in a text. -/
def IsPlain (t : Text) : Prop := ∀ c ∈ t, 32 ≤ c.toNat

instance (t : Text) : Decidable (IsPlain t) := List.decidableBAll _ t

theorem isPlain_cons {c : Char} {t : Text} : IsPlain (c :: t) ↔ 32 ≤ c.toNat ∧ IsPlain t :=
  List.forall_mem_cons

theorem isPlain_append {t t' : Text} : IsPlain (t ++ t') ↔ IsPlain t ∧ IsPlain t' :=
  List.forall_mem_append

theorem IsPlain.lineAt {t : Text} (h : IsPlain t) (level : Nat) : IsPlain (lineAt level t) := by
  refine isPlain_append.mpr ⟨fun c hc => ?_, h⟩
  rw [List.eq_of_mem_replicate hc]
  decide

/-- A character stands in a string without control characters. -/
theorem isPlain_inString (c : Char) : IsPlain (inString c) := by
  have hdigit : ∀ n < 16, IsPlain [n.digitChar] := by decide
  unfold inString
  split
  · next letter h =>
    have hletters : ∀ p ∈ shortEscapes, IsPlain ['\\', p.2] := by decide
    obtain ⟨before, after, hsplit, -⟩ := List.lookup_eq_some_iff.mp h
    exact hletters (c, letter) (by rw [hsplit]; simp)
  · split
    · next h =>
      have hdigits := isPlain_append.mpr
        ⟨hdigit (c.toNat / 16) (by omega), hdigit (c.toNat % 16) (by omega)⟩
      exact isPlain_append.mpr ⟨(by decide : IsPlain ['\\', 'u', '0', '0']), hdigits⟩
    · next h => exact isPlain_cons.mpr ⟨Nat.le_of_not_lt h, by decide⟩

theorem isPlain_inQuotes (t : Text) : IsPlain (inQuotes t) := by
  refine isPlain_append.mpr ⟨isPlain_cons.mpr ⟨by decide, fun c hc => ?_⟩, by decide⟩
  obtain ⟨d, -, hd⟩ := List.mem_flatMap.mp hc
  exact isPlain_inString d c hd

theorem isPlain_digitsOf (n : Nat) : IsPlain (digitsOf n) := fun c hc => by
  have := isDigit_of_mem_digitsOf hc
  rw [isDigit, Bool.and_eq_true, decide_eq_true_eq] at this
  omega

theorem isPlain_printExponent (exponent : Int) : IsPlain (printExponent exponent) := by
  unfold printExponent
  split
  · decide
  · refine isPlain_cons.mpr ⟨by decide, ?_⟩
    cases exponent with
    | ofNat n => exact isPlain_digitsOf n
    | negSucc n =>
        rw [toList_repr_negSucc]
        exact isPlain_cons.mpr ⟨by decide, isPlain_digitsOf (n + 1)⟩

theorem isPlain_printDecimal (d : Decimal) : IsPlain (printDecimal d) := by
  obtain ⟨negative, digits, exponent⟩ := d
  have hsign : IsPlain (if negative then ['-'] else []) := by cases negative <;> decide
  exact isPlain_append.mpr
    ⟨isPlain_append.mpr ⟨hsign, isPlain_digitsOf digits⟩, isPlain_printExponent exponent⟩

theorem isPlain_comma {α : Type} (others : List α) : IsPlain (comma others) := by
  unfold comma
  split <;> decide

/-- All lines of some are without control characters. -/
def ArePlain (lines : List Text) : Prop := ∀ line ∈ lines, IsPlain line

theorem arePlain_singleton {line : Text} (h : IsPlain line) : ArePlain [line] :=
  List.forall_mem_singleton.mpr h

theorem arePlain_append {first second : List Text} :
    ArePlain (first ++ second) ↔ ArePlain first ∧ ArePlain second := List.forall_mem_append

theorem ArePlain.block {lines : List Text} (h : ArePlain lines) {lead trail : Text}
    (hlead : IsPlain lead) (htrail : IsPlain trail) {opening closing : Char}
    (hopening : IsPlain [opening]) (hclosing : IsPlain [closing]) (level : Nat) :
    ArePlain (block level lead trail opening closing lines) := by
  have hfirst := isPlain_append.mpr ⟨hlead, hopening⟩
  have hlast : IsPlain (closing :: trail) := isPlain_append.mpr ⟨hclosing, htrail⟩
  unfold Json.block
  split
  · have hboth := (isPlain_append.mpr ⟨hfirst, hlast⟩).lineAt level
    rw [List.append_assoc] at hboth ⊢
    exact arePlain_singleton hboth
  · exact arePlain_append.mpr ⟨List.forall_mem_cons.mpr ⟨hfirst.lineAt level, h⟩,
      arePlain_singleton (hlast.lineAt level)⟩

/-- **There are no control characters** in the lines of a value, unless they stand around it. -/
theorem arePlain_layout (v : Json) (level : Nat) {lead trail : Text} (hlead : IsPlain lead)
    (htrail : IsPlain trail) : ArePlain (layout level lead trail v) := by
  -- a value on one line stands between the two
  have hone : ∀ (level : Nat) {lead trail body : Text}, IsPlain lead → IsPlain trail →
      IsPlain body → ArePlain [lineAt level (lead ++ body ++ trail)] :=
    fun level _ _ _ hlead htrail hbody => arePlain_singleton
      ((isPlain_append.mpr ⟨isPlain_append.mpr ⟨hlead, hbody⟩, htrail⟩).lineAt level)
  induction v using induction_on generalizing level lead trail with
  | null => rw [layout]; exact hone level hlead htrail (by decide)
  | bool b => cases b <;> rw [layout] <;> exact hone level hlead htrail (by decide)
  | number d => rw [layout]; exact hone level hlead htrail (isPlain_printDecimal d)
  | string t => rw [layout]; exact hone level hlead htrail (isPlain_inQuotes t)
  | array vs ih =>
      rw [layout]
      refine ArePlain.block ?_ hlead htrail (by decide) (by decide) level
      induction vs with
      | nil => rw [layoutItems]; exact List.forall_mem_nil _
      | cons v vs ihs =>
          obtain ⟨hv, hvs⟩ := List.forall_mem_cons.mp ih
          rw [layoutItems]
          exact arePlain_append.mpr ⟨hv (level + 1) (by decide) (isPlain_comma vs), ihs hvs⟩
  | object ms ih =>
      rw [layout]
      refine ArePlain.block ?_ hlead htrail (by decide) (by decide) level
      induction ms with
      | nil => rw [layoutMembers]; exact List.forall_mem_nil _
      | cons m ms ihs =>
          obtain ⟨hm, hms⟩ := List.forall_mem_cons.mp ih
          have hkey := isPlain_append.mpr ⟨isPlain_inQuotes m.1, (by decide : IsPlain [':', ' '])⟩
          rw [layoutMembers]
          exact arePlain_append.mpr ⟨hm (level + 1) hkey (isPlain_comma ms), ihs hms⟩

/-- **The lines of a printed document** are those of its value. -/
theorem splitOn_pretty (v : Json) : List.splitOn '\n' (pretty v) = layout 0 [] [] v := by
  have hpretty : pretty v = joinLines (layout 0 [] [] v) := by
    rw [isLaidOut, List.nil_append, List.append_nil]
    rfl
  rw [hpretty, joinLines]
  refine List.splitOn_intercalate '\n' (fun line hline hmem => ?_) (layout_ne_nil 0 [] [] v)
  exact absurd (arePlain_layout v 0 (by decide) (by decide) line hline _ hmem) (by decide)

end ImportLint.Json
