import ImportLint.Json.Printer
import ImportLint.Json.Reader

/-!
# JSON — what is printed can be read

A printed value is read back as it is, whatever its strings hold and however deep it is nested.
The reader takes each part of the text from its front and leaves what stands behind it, so every
lemma speaks of a printed part with more text behind it.

* `readString_quote`: strings, with all escapes.
* `readNumber_printDecimal`: numbers, if what stands behind them does not go on with them.
* `readAt_prettyAt`: values at any level of nesting, behind any blanks.
* `read_pretty`: whole documents.
-/

namespace ImportLint.Json

/-- Only the syntax counts. -/
def syntaxOnly : Policy := ⟨false⟩

/-! ### Strings -/

theorem hexValue?_hexDigit : ∀ n < 16, hexValue? (hexDigit n) = some n := by decide

/-- A control character that has no short escape is written with four digits. -/
theorem readEscape_hex (policy : Policy) {c : Char} (hc : c.toNat < 32) (rest : Text) :
    readEscape policy
        ('u' :: '0' :: '0' :: hexDigit (c.toNat / 16) :: hexDigit (c.toNat % 16) :: rest) =
      some (c, rest) := by
  have hzero : hexValue? '0' = some 0 := rfl
  have hhigh := hexValue?_hexDigit (c.toNat / 16) (by omega)
  have hlow := hexValue?_hexDigit (c.toNat % 16) (by omega)
  have hvalue : ((0 * 16 + 0) * 16 + c.toNat / 16) * 16 + c.toNat % 16 = c.toNat := by omega
  have hread : readHex4 ('0' :: '0' :: hexDigit (c.toNat / 16) :: hexDigit (c.toNat % 16) :: rest) =
      some (c.toNat, rest) := by
    simp only [readHex4, hzero, hhigh, hlow, Option.bind_eq_bind, Option.bind_some, hvalue]
    rfl
  have hlead : isLeadSurrogate c.toNat = false := by
    simp only [isLeadSurrogate, Bool.and_eq_false_iff, decide_eq_false_iff_not]
    omega
  have htrail : isTrailSurrogate c.toNat = false := by
    simp only [isTrailSurrogate, Bool.and_eq_false_iff, decide_eq_false_iff_not]
    omega
  simp [readEscape, readUnicodeEscape, hread, hlead, htrail]

/-- What is written for a character stands for it. -/
theorem escapeChar_cases (policy : Policy) (c : Char) :
    (escapeChar c = [c] ∧ c ≠ '"' ∧ c ≠ '\\' ∧ ¬ c.toNat < 32) ∨
      ∃ code, escapeChar c = '\\' :: code ∧
        ∀ rest, readEscape policy (code ++ rest) = some (c, rest) := by
  unfold escapeChar
  split
  · exact Or.inr ⟨['"'], rfl, fun rest => rfl⟩
  · exact Or.inr ⟨['\\'], rfl, fun rest => rfl⟩
  · exact Or.inr ⟨['n'], rfl, fun rest => rfl⟩
  · exact Or.inr ⟨['r'], rfl, fun rest => rfl⟩
  · exact Or.inr ⟨['t'], rfl, fun rest => rfl⟩
  · next hquote hslash _ _ _ =>
    have hofNat := Char.ofNat_toNat c
    split
    · next h => exact Or.inr ⟨['b'], rfl, fun rest => by rw [← hofNat, h]; rfl⟩
    · split
      · next h => exact Or.inr ⟨['f'], rfl, fun rest => by rw [← hofNat, h]; rfl⟩
      · split
        · next h => exact Or.inr ⟨_, rfl, fun rest => readEscape_hex policy h rest⟩
        · next h => exact Or.inl ⟨rfl, hquote, hslash, h⟩

/-- The characters of a printed string are read up to the quote that closes it. -/
theorem readStringTail_flatMap (policy : Policy) (t : Text) (fuel : Nat) (rest : Text)
    (hfuel : t.length < fuel) :
    readStringTail policy fuel (t.flatMap escapeChar ++ '"' :: rest) = some (t, rest) := by
  induction t generalizing fuel with
  | nil =>
      obtain ⟨n, rfl⟩ := Nat.exists_eq_add_one.mpr hfuel
      rfl
  | cons c cs ih =>
      rw [List.length_cons] at hfuel
      obtain ⟨n, rfl⟩ := Nat.exists_eq_add_one.mpr (Nat.zero_lt_of_lt hfuel)
      have htail := ih n (by omega)
      rw [List.flatMap_cons, List.append_assoc]
      rcases escapeChar_cases policy c with ⟨he, hquote, hslash, hplain⟩ | ⟨code, he, hread⟩
      · rw [he, List.singleton_append, readStringTail, if_neg hquote, if_neg hslash,
          if_neg hplain, htail]
        rfl
      · rw [he, List.cons_append, readStringTail, if_neg (by decide), if_pos rfl, hread,
          Option.bind_eq_bind, Option.bind_some]
        simp only
        rw [htail]
        rfl

theorem length_le_flatMap_escapeChar (t : Text) : t.length ≤ (t.flatMap escapeChar).length := by
  induction t with
  | nil => exact Nat.le_refl 0
  | cons c cs ih =>
      have hpos : 0 < (escapeChar c).length := by
        rcases escapeChar_cases syntaxOnly c with ⟨he, -⟩ | ⟨code, he, -⟩
        · rw [he]
          exact Nat.zero_lt_one
        · rw [he]
          exact Nat.succ_pos _
      rw [List.flatMap_cons, List.length_append, List.length_cons]
      omega

/-- **A printed string** is read behind its opening quote. -/
theorem readString_quote (policy : Policy) (t rest : Text) :
    readString policy (t.flatMap escapeChar ++ '"' :: rest) = some (t, rest) := by
  refine readStringTail_flatMap policy t _ rest ?_
  have hlen := length_le_flatMap_escapeChar t
  rw [List.length_append]
  omega

theorem quote_append (t rest : Text) :
    quote t ++ rest = '"' :: (t.flatMap escapeChar ++ '"' :: rest) := by
  rw [quote, List.cons_append, List.cons_append, List.append_assoc]
  rfl

/-! ### Numbers -/

/-- A text that does not go on with a number. -/
def EndsNumber (rest : Text) : Prop :=
  ∀ c, rest.head? = some c → isDigit c = false ∧ c ≠ '.' ∧ c ≠ 'e' ∧ c ≠ 'E'

theorem endsNumber_cons {c : Char}
    (h : isDigit c = false ∧ c ≠ '.' ∧ c ≠ 'e' ∧ c ≠ 'E') (rest : Text) :
    EndsNumber (c :: rest) := fun d hd => by
  obtain rfl : c = d := Option.some.inj hd
  exact h

theorem endsNumber_newline (level : Nat) (rest : Text) : EndsNumber (newline level ++ rest) :=
  endsNumber_cons (by decide) _

/-- The digits of a number. -/
def digitsOf (n : Nat) : Text := (Nat.repr n).toList

theorem digitsOf_eq (n : Nat) : digitsOf n = Nat.toDigits 10 n := by
  rw [digitsOf, Nat.repr_eq_ofList_toDigits, String.toList_ofList]

theorem isDigit_of_mem_digitsOf {n : Nat} {c : Char} (h : c ∈ digitsOf n) : isDigit c = true := by
  rw [digitsOf_eq] at h
  have := Nat.isDigit_of_mem_toDigits (by decide) (by decide) h
  simpa [isDigit, Char.isDigit, UInt32.le_iff_toNat_le] using this

theorem digitsValue_digitsOf (n : Nat) : digitsValue (digitsOf n) = n := by
  have h := Nat.ofDigitChars_ten_toDigits (n := n)
  rw [Nat.ofDigitChars_eq_foldl] at h
  rw [digitsOf_eq, digitsValue]
  simpa [Nat.mul_comm] using h

/-- Digits are one digit, or they begin with a digit other than zero. -/
theorem digitsOf_cases (n : Nat) :
    ∃ d ds, digitsOf n = d :: ds ∧ (d = '0' → ds = []) := by
  rw [digitsOf_eq]
  induction n using Nat.strongRecOn with
  | ind n ih =>
      by_cases h : n < 10
      · exact ⟨_, [], Nat.toDigits_of_lt_base h, fun _ => rfl⟩
      · have hle : 10 ≤ n := Nat.le_of_not_lt h
        obtain ⟨d, ds, hd, hzero⟩ := ih (n / 10) (by omega)
        rw [Nat.toDigits_of_base_le (by decide) hle, hd]
        refine ⟨d, ds ++ [_], rfl, fun e => ?_⟩
        -- a leading zero would leave nothing of the digits of `n / 10`
        have hvalue := Nat.ofDigitChars_ten_toDigits (n := n / 10)
        rw [hd, hzero e, e] at hvalue
        have : n / 10 = 0 := hvalue.symm
        omega

theorem digitsOf_ne_nil (n : Nat) : digitsOf n ≠ [] := by
  obtain ⟨d, ds, hd, -⟩ := digitsOf_cases n
  rw [hd]
  exact List.cons_ne_nil d ds

/-- Digits are read up to the first character that is none. -/
theorem readDigits_append {n : Nat} {rest : Text}
    (h : ∀ c, rest.head? = some c → isDigit c = false) :
    readDigits (digitsOf n ++ rest) = some (digitsOf n, rest) := by
  have hrest : rest.takeWhile isDigit = [] ∧ rest.dropWhile isDigit = rest := by
    cases rest with
    | nil => exact ⟨rfl, rfl⟩
    | cons c cs =>
        have hc := h c rfl
        exact ⟨by rw [List.takeWhile_cons, hc]; rfl, by rw [List.dropWhile_cons, hc]; rfl⟩
  have hall : ∀ c ∈ digitsOf n, isDigit c = true := fun c hc => isDigit_of_mem_digitsOf hc
  rw [readDigits, List.takeWhile_append_of_pos hall, List.dropWhile_append_of_pos hall, hrest.1,
    hrest.2, List.append_nil]
  split
  · next hnil => exact absurd hnil (digitsOf_ne_nil n)
  · rfl

theorem readInteger_append {n : Nat} {rest : Text}
    (h : ∀ c, rest.head? = some c → isDigit c = false) :
    readInteger (digitsOf n ++ rest) = some (digitsOf n, rest) := by
  rw [readInteger, readDigits_append h]
  obtain ⟨d, ds, hd, hzero⟩ := digitsOf_cases n
  simp only [Option.bind_eq_bind, Option.bind_some]
  split
  · next _ hbad =>
    rw [hd] at hbad
    obtain ⟨rfl, rfl⟩ := List.cons.inj hbad
    cases hzero rfl
  · rfl

/-- A text that begins with no point has no fraction. -/
theorem readFraction_of_ne {rest : Text} (h : ∀ c, rest.head? = some c → c ≠ '.') :
    readFraction rest = some ([], rest) := by
  unfold readFraction
  split
  · next cs => exact absurd rfl (h '.' rfl)
  · rfl

/-- How the power of ten of a number is written. -/
def printExponent (exponent : Int) : Text :=
  if exponent = 0 then [] else 'e' :: exponent.repr.toList

theorem head?_printExponent_append (exponent : Int) {rest : Text} (h : EndsNumber rest) :
    ∀ c, (printExponent exponent ++ rest).head? = some c → isDigit c = false ∧ c ≠ '.' := by
  intro c hc
  unfold printExponent at hc
  split at hc
  · exact ⟨(h c hc).1, (h c hc).2.1⟩
  · obtain rfl : 'e' = c := Option.some.inj hc
    decide

/-- The first character of digits is a digit. -/
theorem exists_isDigit_digitsOf (n : Nat) :
    ∃ d ds, digitsOf n = d :: ds ∧ isDigit d = true := by
  obtain ⟨d, ds, hd, -⟩ := digitsOf_cases n
  exact ⟨d, ds, hd, isDigit_of_mem_digitsOf (hd ▸ List.mem_cons_self)⟩

theorem toList_repr_negSucc (n : Nat) : (Int.negSucc n).repr.toList = '-' :: digitsOf (n + 1) := by
  rw [Int.repr]
  exact String.toList_append

theorem readExponent_printExponent (exponent : Int) {rest : Text} (h : EndsNumber rest) :
    readExponent (printExponent exponent ++ rest) = some (exponent, rest) := by
  have hread : ∀ n, readDigits (digitsOf n ++ rest) = some (digitsOf n, rest) := fun n =>
    readDigits_append fun c hc => (h c hc).1
  unfold printExponent
  split
  · next hzero =>
    rw [hzero, List.nil_append]
    cases rest with
    | nil => rfl
    | cons c cs =>
        obtain ⟨-, -, he, hE⟩ := h c rfl
        simp [readExponent, he, hE]
  · cases exponent with
    | ofNat n =>
        change readExponent ('e' :: (digitsOf n ++ rest)) = _
        obtain ⟨d, ds, hd, hisDigit⟩ := exists_isDigit_digitsOf n
        have hplus : d ≠ '+' := by rintro rfl; cases hisDigit
        have hminus : d ≠ '-' := by rintro rfl; cases hisDigit
        have hdigits := hread n
        have hvalue := digitsValue_digitsOf n
        rw [hd, List.cons_append] at hdigits
        rw [hd] at hvalue ⊢
        simp [readExponent, hplus, hminus, hdigits, hvalue]
    | negSucc n =>
        rw [toList_repr_negSucc]
        change (readDigits (digitsOf (n + 1) ++ rest)).map _ = _
        rw [hread, Option.map_some]
        simp [digitsValue_digitsOf, Int.negSucc_eq]

/-- **A printed number** is read, if what stands behind it does not go on with it. -/
theorem readNumber_printDecimal (d : Decimal) {rest : Text} (h : EndsNumber rest) :
    readNumber syntaxOnly (printDecimal d ++ rest) = some (.number d, rest) := by
  obtain ⟨negative, digits, exponent⟩ := d
  have hhead := head?_printExponent_append exponent h
  have hwhole : readInteger (digitsOf digits ++ (printExponent exponent ++ rest)) =
      some (digitsOf digits, printExponent exponent ++ rest) :=
    readInteger_append fun c hc => (hhead c hc).1
  have hfraction : readFraction (printExponent exponent ++ rest) =
      some ([], printExponent exponent ++ rest) := readFraction_of_ne fun c hc => (hhead c hc).2
  have hexponent := readExponent_printExponent exponent h
  have hprint : printDecimal ⟨negative, digits, exponent⟩ ++ rest =
      (if negative then ['-'] else []) ++
        (digitsOf digits ++ (printExponent exponent ++ rest)) := by
    rw [printDecimal, List.append_assoc, List.append_assoc]
    rfl
  have hvalue := digitsValue_digitsOf digits
  rw [hprint]
  cases negative with
  | true => simp [readNumber, hwhole, hfraction, hexponent, hvalue, syntaxOnly]
  | false =>
      obtain ⟨d, ds, hd, hisDigit⟩ := exists_isDigit_digitsOf digits
      have hminus : d ≠ '-' := by rintro rfl; cases hisDigit
      rw [hd, List.cons_append] at hwhole
      rw [hd] at hvalue ⊢
      simp [readNumber, hminus, hwhole, hfraction, hexponent, hvalue, syntaxOnly]

/-! ### Blanks -/

theorem skipSpace_cons {c : Char} (hc : isSpace c = false) (cs : Text) :
    skipSpace (c :: cs) = c :: cs := by
  rw [skipSpace, List.dropWhile_cons, hc]
  rfl

theorem skipSpace_append (blank : Text) (hblank : ∀ c ∈ blank, isSpace c = true) (cs : Text) :
    skipSpace (blank ++ cs) = skipSpace cs := by
  rw [skipSpace, List.dropWhile_append_of_pos hblank]
  rfl

theorem isSpace_of_mem_newline {level : Nat} {c : Char} (h : c ∈ newline level) :
    isSpace c = true := by
  rcases List.mem_cons.mp h with rfl | h
  · rfl
  · rw [List.eq_of_mem_replicate h]
    rfl

theorem skipSpace_newline (level : Nat) (cs : Text) :
    skipSpace (newline level ++ cs) = skipSpace cs :=
  skipSpace_append _ (fun _ hc => isSpace_of_mem_newline hc) cs

/-- Blanks before a value do not matter. -/
theorem readAt_congr (policy : Policy) (fuel : Nat) (depth : Option Nat) {cs cs' : Text}
    (h : skipSpace cs = skipSpace cs') :
    readAt policy fuel depth cs = readAt policy fuel depth cs' := by
  cases fuel with
  | zero => rw [readAt, readAt]
  | succ fuel => rw [readAt, readAt, h]

/-! ### Values -/

/-- A printed number begins with a digit or a sign. -/
theorem printDecimal_cases (d : Decimal) :
    ∃ c cs, printDecimal d = c :: cs ∧ (isDigit c = true ∨ c = '-') := by
  obtain ⟨negative, digits, exponent⟩ := d
  cases negative with
  | true => exact ⟨'-', _, rfl, Or.inr rfl⟩
  | false =>
      obtain ⟨d, ds, hd, hisDigit⟩ := exists_isDigit_digitsOf digits
      refine ⟨d, ds ++ printExponent exponent, ?_, Or.inl hisDigit⟩
      change digitsOf digits ++ printExponent exponent = _
      rw [hd, List.cons_append]

/-- A printed value begins with a character that is neither a blank nor the end of a list. -/
theorem prettyAt_cases (level : Nat) (v : Json) :
    ∃ c cs, prettyAt level v = c :: cs ∧ isSpace c = false ∧ c ≠ ']' := by
  cases v with
  | null => exact ⟨'n', _, rfl, by decide⟩
  | bool b => cases b <;> exact ⟨_, _, rfl, by decide⟩
  | number d =>
      obtain ⟨c, cs, h, hc⟩ := printDecimal_cases d
      refine ⟨c, cs, h, ?_, ?_⟩
      · simp only [isSpace, Bool.or_eq_false_iff, beq_eq_false_iff_ne]
        refine ⟨⟨⟨?_, ?_⟩, ?_⟩, ?_⟩ <;> rintro rfl <;> revert hc <;> decide
      · rintro rfl
        revert hc
        decide
  | string t => exact ⟨'"', _, rfl, by decide⟩
  | array vs => cases vs <;> exact ⟨'[', _, rfl, by decide⟩
  | object ms => cases ms <;> exact ⟨'\x7b', _, rfl, by decide⟩

/-- What begins with a digit or a sign is read as a number. -/
theorem readAt_number (policy : Policy) (fuel : Nat) (depth : Option Nat) {c : Char} {cs : Text}
    (hc : isDigit c = true ∨ c = '-') :
    readAt policy (fuel + 1) depth (c :: cs) = readNumber policy (c :: cs) := by
  have hne : isSpace c = false ∧ c ≠ 'n' ∧ c ≠ 't' ∧ c ≠ 'f' ∧ c ≠ '"' ∧ c ≠ '[' ∧ c ≠ '\x7b' := by
    simp only [isSpace, Bool.or_eq_false_iff, beq_eq_false_iff_ne]
    refine ⟨⟨⟨⟨?_, ?_⟩, ?_⟩, ?_⟩, ?_, ?_, ?_, ?_, ?_, ?_⟩ <;> rintro rfl <;> revert hc <;> decide
  obtain ⟨hspace, hn, ht, hf, hquote, hlist, hobject⟩ := hne
  simp [readAt, skipSpace_cons hspace, hn, ht, hf, hquote, hlist, hobject]

/-- The reader takes a printed value from the front of a text, whatever stands behind it. -/
def IsRead (fuel level : Nat) (v : Json) : Prop :=
  ∀ rest, EndsNumber rest →
    readAt syntaxOnly fuel none (prettyAt level v ++ rest) = some (v, rest)

theorem skipSpace_prettyAt (level : Nat) (v : Json) (rest : Text) :
    skipSpace (prettyAt level v ++ rest) = prettyAt level v ++ rest := by
  obtain ⟨c, cs, h, hc, -⟩ := prettyAt_cases level v
  rw [h, List.cons_append, skipSpace_cons hc]

/-- Items are read up to the bracket that closes their list. -/
theorem items_prettyItems {fuel level : Nat} (outer : Nat) {v : Json} {vs : List Json} {more : Nat}
    (hmore : vs.length < more) (hread : ∀ w ∈ v :: vs, IsRead fuel level w) (rest : Text) :
    readAt.items syntaxOnly fuel none more
        (prettyAt level v ++ (prettyItems level vs ++ (newline outer ++ ']' :: rest))) =
      some (v :: vs, rest) := by
  obtain ⟨n, rfl⟩ := Nat.exists_eq_add_one.mpr (Nat.zero_lt_of_lt hmore)
  have hv := hread v List.mem_cons_self
  induction vs generalizing v n with
  | nil =>
      have hclose : skipSpace (newline outer ++ ']' :: rest) = ']' :: rest := by
        rw [skipSpace_newline, skipSpace_cons (by decide)]
      rw [readAt.items, prettyItems, List.nil_append, hv _ (endsNumber_newline outer _)]
      simp only [Option.bind_eq_bind, Option.bind_some, hclose]
      rfl
  | cons w ws ih =>
      rw [List.length_cons] at hmore
      obtain ⟨m, rfl⟩ := Nat.exists_eq_add_one.mpr (show 0 < n by omega)
      have htail := ih (v := w) (fun u hu => hread u (List.mem_cons_of_mem v hu)) m (by omega)
        (hread w (List.mem_cons_of_mem v List.mem_cons_self))
      have hblank : readAt.items syntaxOnly fuel none (m + 1) (newline level ++
            (prettyAt level w ++ (prettyItems level ws ++ (newline outer ++ ']' :: rest)))) =
          some (w :: ws, rest) := by
        rw [← htail, readAt.items, readAt.items,
          readAt_congr syntaxOnly fuel none (skipSpace_newline level _)]
      rw [readAt.items, prettyItems]
      simp only [List.append_assoc, List.cons_append]
      rw [hv _ (endsNumber_cons (by decide) _)]
      simp only [Option.bind_eq_bind, Option.bind_some,
        skipSpace_cons (show isSpace ',' = false from rfl), hblank]
      rfl

/-- Members are read up to the brace that closes their object. -/
theorem members_prettyMembers {fuel level : Nat} (outer : Nat) {k : Text} {v : Json}
    {ms : List (Text × Json)} {more : Nat} (hmore : ms.length < more)
    (hread : ∀ m ∈ (k, v) :: ms, IsRead fuel level m.2) (rest : Text) :
    readAt.members syntaxOnly fuel none more
        (quote k ++ ':' :: ' ' :: (prettyAt level v ++
          (prettyMembers level ms ++ (newline outer ++ '\x7d' :: rest)))) =
      some ((k, v) :: ms, rest) := by
  obtain ⟨n, rfl⟩ := Nat.exists_eq_add_one.mpr (Nat.zero_lt_of_lt hmore)
  have hspace : ∀ cs : Text, skipSpace (' ' :: cs) = skipSpace cs := fun cs =>
    skipSpace_append [' '] (fun c hc => List.mem_singleton.mp hc ▸ rfl) cs
  induction ms generalizing k v n with
  | nil =>
      have hv := hread (k, v) List.mem_cons_self
      have hclose : skipSpace (newline outer ++ '\x7d' :: rest) = '\x7d' :: rest := by
        rw [skipSpace_newline, skipSpace_cons (by decide)]
      rw [readAt.members, quote_append, skipSpace_cons (by decide)]
      simp only [readString_quote, Option.bind_eq_bind, Option.bind_some,
        skipSpace_cons (show isSpace ':' = false from rfl)]
      rw [readAt_congr syntaxOnly fuel none (hspace _), prettyMembers, List.nil_append,
        hv _ (endsNumber_newline outer _)]
      simp only [Option.bind_some, hclose]
      rfl
  | cons m ms ih =>
      obtain ⟨k', v'⟩ := m
      have hv := hread (k, v) List.mem_cons_self
      rw [List.length_cons] at hmore
      obtain ⟨j, rfl⟩ := Nat.exists_eq_add_one.mpr (show 0 < n by omega)
      have htail := ih (k := k') (v := v') (fun u hu => hread u (List.mem_cons_of_mem _ hu)) j
        (by omega)
      have hblank : readAt.members syntaxOnly fuel none (j + 1) (newline level ++
            (quote k' ++ ':' :: ' ' :: (prettyAt level v' ++
              (prettyMembers level ms ++ (newline outer ++ '\x7d' :: rest))))) =
          some ((k', v') :: ms, rest) := by
        rw [← htail, readAt.members, readAt.members, skipSpace_newline]
      rw [readAt.members, quote_append, skipSpace_cons (by decide)]
      simp only [readString_quote, Option.bind_eq_bind, Option.bind_some,
        skipSpace_cons (show isSpace ':' = false from rfl)]
      rw [readAt_congr syntaxOnly fuel none (hspace _), prettyMembers]
      simp only [List.append_assoc, List.cons_append, List.nil_append]
      rw [hv _ (endsNumber_cons (by decide) _)]
      simp only [Option.bind_some, skipSpace_cons (show isSpace ',' = false from rfl), hblank]
      rfl

/-- The items of a list are printed within it, and there are no more of them than characters. -/
theorem length_le_prettyItems (level : Nat) (vs : List Json) :
    vs.length ≤ (prettyItems level vs).length ∧
      ∀ w ∈ vs, (prettyAt level w).length ≤ (prettyItems level vs).length := by
  induction vs with
  | nil => exact ⟨Nat.le_refl 0, fun w hw => absurd hw List.not_mem_nil⟩
  | cons v vs ih =>
      obtain ⟨hcount, hitem⟩ := ih
      simp only [prettyItems, List.length_append, List.length_cons]
      refine ⟨by omega, fun w hw => ?_⟩
      rcases List.mem_cons.mp hw with rfl | hw
      · omega
      · have := hitem w hw
        omega

/-- The members of an object are printed within it, and there are no more of them than
characters. -/
theorem length_le_prettyMembers (level : Nat) (ms : List (Text × Json)) :
    ms.length ≤ (prettyMembers level ms).length ∧
      ∀ m ∈ ms, (prettyAt level m.2).length ≤ (prettyMembers level ms).length := by
  induction ms with
  | nil => exact ⟨Nat.le_refl 0, fun m hm => absurd hm List.not_mem_nil⟩
  | cons m ms ih =>
      obtain ⟨hcount, hmember⟩ := ih
      obtain ⟨k, v⟩ := m
      simp only [prettyMembers, List.length_append, List.length_cons]
      refine ⟨by omega, fun m hm => ?_⟩
      rcases List.mem_cons.mp hm with rfl | hm
      · simp only
        omega
      · have := hmember m hm
        omega

/-- **A printed value** is read, if the reader may go as deep as the text is long. -/
theorem readAt_prettyAt {fuel level : Nat} {v : Json} (hfuel : (prettyAt level v).length < fuel) :
    IsRead fuel level v := by
  induction fuel generalizing level v with
  | zero => exact absurd hfuel (Nat.not_lt_zero _)
  | succ fuel ih =>
      intro rest hrest
      cases v with
      | null => rw [readAt, skipSpace_prettyAt]; rfl
      | bool b => rw [readAt, skipSpace_prettyAt]; cases b <;> rfl
      | number d =>
          obtain ⟨c, cs, h, hc⟩ := printDecimal_cases d
          have hread := readNumber_printDecimal d hrest
          rw [h, List.cons_append] at hread
          rw [prettyAt, h, List.cons_append, readAt_number syntaxOnly fuel none hc, hread]
      | string t =>
          rw [readAt, skipSpace_prettyAt, prettyAt, quote_append]
          simp only [readString_quote, Option.map_some]
      | array vs =>
          rw [readAt, skipSpace_prettyAt]
          cases vs with
          | nil => simp [prettyAt, skipSpace_cons (show isSpace ']' = false from rfl)]
          | cons v vs =>
              obtain ⟨hcount, hitem⟩ := length_le_prettyItems (level + 1) vs
              simp only [prettyAt, List.length_cons, List.length_append] at hfuel
              have hread : ∀ w ∈ v :: vs, IsRead fuel (level + 1) w := fun w hw => ih <| by
                rcases List.mem_cons.mp hw with rfl | hw
                · omega
                · have := hitem w hw
                  omega
              simp only [prettyAt, List.cons_append, List.append_assoc, List.nil_append,
                skipSpace_newline, skipSpace_prettyAt]
              split
              · next h => cases h
              · split
                · next h =>
                  obtain ⟨c, cs, hc, -, hclose⟩ := prettyAt_cases (level + 1) v
                  rw [hc] at h
                  exact absurd (List.cons.inj h).1 hclose
                · rw [Option.map_none, items_prettyItems level _ hread rest]
                  · rfl
                  · simp only [List.length_append]
                    omega
      | object ms =>
          rw [readAt, skipSpace_prettyAt]
          cases ms with
          | nil => simp [prettyAt, skipSpace_cons (show isSpace '\x7d' = false from rfl)]
          | cons m ms =>
              obtain ⟨k, v⟩ := m
              obtain ⟨hcount, hmember⟩ := length_le_prettyMembers (level + 1) ms
              simp only [prettyAt, List.length_cons, List.length_append] at hfuel
              have hread : ∀ m ∈ (k, v) :: ms, IsRead fuel (level + 1) m.2 := fun m hm => ih <| by
                rcases List.mem_cons.mp hm with rfl | hm
                · simp only
                  omega
                · have := hmember m hm
                  omega
              have hquote : ∀ cs, skipSpace (quote k ++ cs) = quote k ++ cs := fun cs =>
                skipSpace_cons (by decide) _
              simp only [prettyAt, List.cons_append, List.append_assoc, List.nil_append,
                skipSpace_newline, hquote]
              split
              · next h => cases h
              · split
                · next h => cases h
                · rw [Option.map_none, members_prettyMembers level _ hread rest]
                  · rfl
                  · simp only [List.length_append, List.length_cons]
                    omega

/-- **A printed document** is read back, and nothing of it is left. -/
theorem read_pretty (v : Json) : read syntaxOnly none (pretty v) = some (v, []) := by
  have hread := readAt_prettyAt (Nat.lt_succ_self (prettyAt 0 v).length) []
    fun c hc => by cases hc
  rwa [List.append_nil] at hread

end ImportLint.Json
