import ImportLint.Json.Decode

/-!
# Relaxed JSON — records of lists of strings

A record of which each field is a list of strings, written without blanks and without escapes, is
read as it is written.  Its strings must not hold characters that end a string or begin an escape.

* `Relaxed.readString_plain`, `decodeString_pieces`: a string without such characters.
* `Relaxed.readValue_listText`: a list of such strings.
* `Relaxed.parse_recordText`: a record of such lists.
-/

namespace ImportLint.Relaxed

/-- A character that stands for itself in a string with double quotes. -/
def isPlain (c : Char) : Bool := c != '"' && c != '\\' && !isLineEnd c

def IsPlain (t : Text) : Prop := ∀ c ∈ t, isPlain c = true

/-- The pieces of a string without escapes. -/
def pieces (t : Text) : List Piece := t.map .literal

/-! ### Texts -/

/-- A string and what follows it. -/
def quoted (t rest : Text) : Text := '"' :: (t ++ '"' :: rest)

/-- The strings of a list, up to its bracket, and what follows it. -/
def itemsText (rest : Text) : Text → List Text → Text
  | t, [] => quoted t (']' :: rest)
  | t, u :: us => quoted t (',' :: itemsText rest u us)

/-- A list of strings and what follows it. -/
def listText (rest : Text) : List Text → Text
  | [] => '[' :: ']' :: rest
  | t :: ts => '[' :: itemsText rest t ts

/-- The fields of a record, up to its brace, and what follows it. -/
def membersText (rest : Text) : Text × List Text → List (Text × List Text) → Text
  | (k, ts), [] => quoted k (':' :: listText ('\x7d' :: rest) ts)
  | (k, ts), m :: ms => quoted k (':' :: listText (',' :: membersText rest m ms) ts)

/-- A record of lists of strings. -/
def recordText : List (Text × List Text) → Text
  | [] => ['\x7b', '\x7d']
  | m :: ms => '\x7b' :: membersText [] m ms

theorem length_quoted (t rest : Text) : (quoted t rest).length = t.length + rest.length + 2 := by
  rw [quoted, List.length_cons, List.length_append, List.length_cons]
  omega

/-! ### Strings -/

theorem readString_plain {t : Text} (ht : IsPlain t) {fuel : Nat} (hfuel : t.length < fuel)
    (rest : Text) : readString '"' fuel (t ++ '"' :: rest) = some (pieces t, rest) := by
  induction t generalizing fuel with
  | nil =>
      obtain ⟨n, rfl⟩ := Nat.exists_eq_add_one.mpr hfuel
      rfl
  | cons c cs ih =>
      obtain ⟨hc, hcs⟩ := List.forall_mem_cons.mp ht
      obtain ⟨n, rfl⟩ := Nat.exists_eq_add_one.mpr (Nat.zero_lt_of_lt hfuel)
      have hrest := ih hcs (Nat.lt_of_succ_lt_succ hfuel)
      simp only [isPlain, Bool.and_eq_true, bne_iff_ne, ne_eq, Bool.not_eq_true'] at hc
      rw [List.cons_append, readString, if_neg hc.1.1, if_neg hc.1.2, hc.2, hrest]
      rfl

theorem decodeString_pieces (t : Text) : decodeString (pieces t) = .ok t := by
  induction t with
  | nil => rfl
  | cons c cs ih =>
      change (decodeString (pieces cs)).map (c :: ·) = _
      rw [ih]
      rfl

theorem readString_quoted {t : Text} (ht : IsPlain t) (rest : Text) :
    readString '"' ((t ++ '"' :: rest).length + 1) (t ++ '"' :: rest) = some (pieces t, rest) :=
  readString_plain ht (by rw [List.length_append]; omega) rest

theorem readValue_quoted {t : Text} (ht : IsPlain t) (fuel : Nat) (rest : Text) :
    readValue (fuel + 1) (quoted t rest) = some (.string (pieces t), rest) := by
  rw [quoted, readValue, readString_quoted ht]
  rfl

theorem readKey_quoted {t : Text} (ht : IsPlain t) (rest : Text) :
    readKey (quoted t rest) = some (pieces t, rest) := by
  have hkey : readKeyChar isKeyStart (quoted t rest) = none := by
    have hstart : isKeyStart '"' = false := by decide +kernel
    simp [readKeyChar, quoted, hstart]
  unfold readKey
  rw [hkey]
  exact readString_quoted ht rest

/-! ### Lists -/

/-- The characters that begin, part and end values. -/
def marks : List Char := ['"', ',', ':', '[', ']', '\x7b', '\x7d']

/-- Nothing is dropped before a mark: it is no blank and begins no comment. -/
theorem skipSpace_mark {c : Char} (hc : c ∈ marks) (cs : Text) : skipSpace (c :: cs) = c :: cs := by
  have hmarks : (marks.all fun c => !isSpace c && c != '/') = true := by cbv
  obtain ⟨hspace, hslash⟩ : isSpace c = false ∧ c ≠ '/' := by
    simpa using List.all_eq_true.mp hmarks c hc
  rw [skipSpace, skip, List.dropWhile_cons_of_neg (by simp [hspace])]
  split
  · next e => exact absurd (List.cons.inj e).1 hslash
  · next e => exact absurd (List.cons.inj e).1 hslash
  · rfl

theorem skipSpace_quoted (t rest : Text) : skipSpace (quoted t rest) = quoted t rest :=
  skipSpace_mark (by decide) _

theorem itemsText_cases (rest t : Text) (ts : List Text) :
    ∃ more, itemsText rest t ts = quoted t more := by
  cases ts with
  | nil => exact ⟨_, rfl⟩
  | cons u us => exact ⟨_, rfl⟩

theorem length_le_itemsText (rest t : Text) (ts : List Text) :
    ts.length + rest.length ≤ (itemsText rest t ts).length := by
  induction ts generalizing t with
  | nil =>
      rw [itemsText, length_quoted, List.length_nil, List.length_cons]
      omega
  | cons u us ih =>
      have hrest := ih u
      rw [itemsText, length_quoted, List.length_cons, List.length_cons]
      omega

/-- The strings of a list are read up to its bracket. -/
theorem items_itemsText {t : Text} {ts : List Text} (ht : IsPlain t) (hts : ∀ u ∈ ts, IsPlain u)
    (fuel : Nat) {more : Nat} (hmore : ts.length < more) (rest : Text) :
    readValue.items (fuel + 1) more (itemsText rest t ts) =
      some ((t :: ts).map fun u => .string (pieces u), rest) := by
  induction ts generalizing t more with
  | nil =>
      obtain ⟨n, rfl⟩ := Nat.exists_eq_add_one.mpr hmore
      rw [itemsText, readValue.items, readValue_quoted ht]
      simp only [Option.bind_eq_bind, Option.bind_some]
      rw [skipSpace_mark (by decide)]
      rfl
  | cons u us ih =>
      obtain ⟨n, rfl⟩ := Nat.exists_eq_add_one.mpr (Nat.zero_lt_of_lt hmore)
      obtain ⟨hu, hus⟩ := List.forall_mem_cons.mp hts
      have hrest := ih hu hus (Nat.lt_of_succ_lt_succ hmore)
      obtain ⟨more, hbegin⟩ := itemsText_cases rest u us
      rw [itemsText, readValue.items, readValue_quoted ht]
      simp only [Option.bind_eq_bind, Option.bind_some]
      rw [skipSpace_mark (by decide)]
      simp only
      -- what follows the comma begins with a quote, so the list does not end there
      rw [hbegin] at hrest ⊢
      rw [skipSpace_quoted]
      change (readValue.items (fuel + 1) n (quoted u more)).bind _ = _
      rw [hrest]
      rfl

/-- **A list of strings** is read. -/
theorem readValue_listText {ts : List Text} (hts : ∀ t ∈ ts, IsPlain t) (fuel : Nat)
    (rest : Text) :
    readValue (fuel + 2) (listText rest ts) =
      some (.array (ts.map fun t => .string (pieces t)), rest) := by
  cases ts with
  | nil =>
      rw [listText, readValue, skipSpace_mark (by decide)]
      rfl
  | cons t ts =>
      obtain ⟨ht, hothers⟩ := List.forall_mem_cons.mp hts
      obtain ⟨more, hbegin⟩ := itemsText_cases rest t ts
      have hitems := items_itemsText ht hothers fuel
        (Nat.lt_succ_of_le (Nat.le_of_add_right_le (length_le_itemsText rest t ts))) rest
      rw [hbegin] at hitems
      rw [listText, readValue, hbegin, skipSpace_quoted]
      exact congrArg (Option.map fun p => (Form.array p.1, p.2)) hitems

/-! ### Records -/

theorem membersText_cases (rest : Text) (m : Text × List Text) (ms : List (Text × List Text)) :
    ∃ more, membersText rest m ms = quoted m.1 more := by
  cases ms with
  | nil => exact ⟨_, rfl⟩
  | cons u us => exact ⟨_, rfl⟩

theorem length_le_listText (rest : Text) (ts : List Text) :
    rest.length ≤ (listText rest ts).length := by
  cases ts with
  | nil =>
      rw [listText, List.length_cons, List.length_cons]
      omega
  | cons t ts =>
      have hitems := length_le_itemsText rest t ts
      rw [listText, List.length_cons]
      omega

theorem length_le_membersText (rest : Text) (m : Text × List Text)
    (ms : List (Text × List Text)) : ms.length ≤ (membersText rest m ms).length := by
  induction ms generalizing m with
  | nil => exact Nat.zero_le _
  | cons u us ih =>
      have hrest := ih u
      have hlist := length_le_listText (',' :: membersText rest u us) m.2
      rw [membersText, length_quoted, List.length_cons, List.length_cons]
      rw [List.length_cons] at hlist
      omega

theorem skipSpace_listText (rest : Text) (ts : List Text) :
    skipSpace (listText rest ts) = listText rest ts := by
  cases ts with
  | nil => exact skipSpace_mark (by decide) _
  | cons t ts => exact skipSpace_mark (by decide) _

/-- A member of a record, as it is read. -/
def memberForm (m : Text × List Text) : List Piece × Form :=
  (pieces m.1, .array (m.2.map fun t => .string (pieces t)))

/-- The key and the strings of a field are plain. -/
def ArePlain (m : Text × List Text) : Prop := IsPlain m.1 ∧ ∀ t ∈ m.2, IsPlain t

/-- The fields of a record are read up to its brace. -/
theorem members_membersText {m : Text × List Text} {ms : List (Text × List Text)}
    (hm : ArePlain m) (hms : ∀ n ∈ ms, ArePlain n) (fuel : Nat) {more : Nat}
    (hmore : ms.length < more) (rest : Text) :
    readValue.members (fuel + 2) more (membersText rest m ms) =
      some ((m :: ms).map memberForm, rest) := by
  obtain ⟨k, ts⟩ := m
  obtain ⟨hk, hts⟩ := hm
  induction ms generalizing k ts more with
  | nil =>
      obtain ⟨n, rfl⟩ := Nat.exists_eq_add_one.mpr hmore
      rw [membersText, readValue.members, readKey_quoted hk]
      simp only [Option.bind_eq_bind, Option.bind_some]
      rw [skipSpace_mark (by decide)]
      simp only
      rw [skipSpace_listText, readValue_listText hts]
      simp only [Option.bind_some]
      rw [skipSpace_mark (by decide)]
      rfl
  | cons m ms ih =>
      obtain ⟨n, rfl⟩ := Nat.exists_eq_add_one.mpr (Nat.zero_lt_of_lt hmore)
      obtain ⟨hm, hothers⟩ := List.forall_mem_cons.mp hms
      have hrest := ih hothers (Nat.lt_of_succ_lt_succ hmore) m.1 m.2 hm.1 hm.2
      obtain ⟨more, hbegin⟩ := membersText_cases rest m ms
      rw [membersText, readValue.members, readKey_quoted hk]
      simp only [Option.bind_eq_bind, Option.bind_some]
      rw [skipSpace_mark (by decide)]
      simp only
      rw [skipSpace_listText, readValue_listText hts]
      simp only [Option.bind_some]
      rw [skipSpace_mark (by decide)]
      simp only
      rw [hbegin] at hrest ⊢
      rw [skipSpace_quoted]
      change (readValue.members (fuel + 2) n (quoted m.1 more)).bind _ = _
      rw [hrest]
      rfl

/-- **A record of lists of strings** is read as it is written. -/
theorem parse_recordText {ms : List (Text × List Text)} (hms : ∀ m ∈ ms, ArePlain m) :
    parse (recordText ms) = some (.object (ms.map memberForm)) := by
  cases ms with
  | nil => cbv
  | cons m ms =>
      obtain ⟨hm, hothers⟩ := List.forall_mem_cons.mp hms
      obtain ⟨more, hbegin⟩ := membersText_cases [] m ms
      have hmembers := members_membersText hm hothers (m.1.length + more.length + 1)
        (Nat.lt_succ_of_le (length_le_membersText [] m ms)) []
      rw [hbegin] at hmembers
      have hvalue : readValue (('{' :: quoted m.1 more).length + 1) ('{' :: quoted m.1 more) =
          some (.object ((m :: ms).map memberForm), []) := by
        rw [List.length_cons, length_quoted, readValue, skipSpace_quoted]
        exact congrArg (Option.map fun p => (Form.object p.1, p.2)) hmembers
      rw [recordText, hbegin, parse, skipSpace_mark (by decide), hvalue]
      rfl

/-! ### Decoding -/

/-- **A list of strings** is decoded to what it was written from. -/
theorem expectList_pieces (ts : List Text) :
    expectList expectString (.array (ts.map fun t => .string (pieces t))) = .ok ts := by
  rw [expectList]
  induction ts with
  | nil => rfl
  | cons t ts ih =>
      rw [List.map_cons, List.mapM_cons, ih, expectString, decodeString_pieces]
      rfl

/-- A field that is written for the first time is put into the record. -/
theorem readMembers_pieces {α : Type} {fields : List (RecordField α)} {field : RecordField α}
    {k : Text} (hfield : fields.find? (·.name == k) = some field) {seen : List Text}
    (hseen : seen.contains k = false) (record : α) (v : Form) (rest : List (List Piece × Form)) :
    readMembers fields seen record ((pieces k, v) :: rest) =
      (field.put v record).bind fun r => readMembers fields (k :: seen) r rest := by
  rw [readMembers, decodeString_pieces]
  simp only [bind, Except.bind, hfield, hseen, Bool.false_eq_true, if_false]

end ImportLint.Relaxed
