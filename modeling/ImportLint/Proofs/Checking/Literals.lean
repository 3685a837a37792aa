import ImportLint.Proofs.Checking.Calls
import ImportLint.Proofs.Checking.Collection

/-!
# Checking — where the reported references stand

A fault of a reference is placed by the bytes of a string literal.  They are counted in the text
that is parsed, which is the text of the file without the mark of its byte order.

* `IsLiteral`: how a value is written as a string literal.
* `Syntax.Module.IsExact`: the literals of a module stand where they say.  It is assumed of the
  parser.
* `faults_at_literals`: then the fault of a reference is at its literal, if the bytes of the mark
  are counted too.
* `misplaced_behind_mark`: they are not, so the literal is missed in a text that has the mark.
-/

namespace ImportLint

open Syntax

/-! ### Bytes -/

namespace Text

/-- The bytes of a text. -/
def utf8 (t : Text) : List UInt8 := t.flatMap String.utf8EncodeChar

/-- Some bytes of a text, from an offset on. -/
def bytesAt (t : Text) (start length : Nat) : List UInt8 := (t.utf8.drop start).take length

/-- The bytes of the mark of the byte order, if a text begins with it. -/
def markLength : Text → Nat
  | c :: _ => if c.toNat = 0xFEFF then c.utf8Size else 0
  | [] => 0

/-- Offsets in a text without its mark. -/
theorem bytesAt_withoutMark (t : Text) (start length : Nat) :
    (withoutMark t).bytesAt start length = t.bytesAt (t.markLength + start) length := by
  have hdrop : (withoutMark t).utf8 = t.utf8.drop t.markLength := by
    cases t with
    | nil => rfl
    | cons c cs =>
        by_cases hc : c.toNat = 0xFEFF
        · rw [withoutMark, markLength, if_pos hc, if_pos hc, utf8, utf8, List.flatMap_cons,
            List.drop_left' (String.length_utf8EncodeChar c)]
        · rw [withoutMark, markLength, if_neg hc, if_neg hc, List.drop_zero]
  rw [bytesAt, hdrop, List.drop_drop, bytesAt]

end Text

namespace Syntax

/-! ### How literals are written -/

/-- A text is a string literal with a value: it begins with a quote, and read from there it is one
token.  A literal without closing quote ends with its line. -/
def IsLiteral (token value : Text) : Prop :=
  ∃ quote, (quote = '\'' ∨ quote = '"') ∧ token.head? = some quote ∧
    ((Reader.quoted quote).run { rest := token, limit := token.length + 1 }).1 =
      .ok (.string value token)

/-- The literals of a module stand where they say in the text that was parsed. -/
def Module.IsExact (m : Module) (parsed : Text) : Prop :=
  ∀ items, m.items = .ok items → ∀ l ∈ items.flatMap Tree.literals,
    ∃ token, IsLiteral token l.value ∧
      parsed.bytesAt l.span.lo (l.span.hi - l.span.lo) = token.utf8

theorem IsLiteral.utf8_ne_nil {token value : Text} (h : IsLiteral token value) :
    token.utf8 ≠ [] := by
  obtain ⟨quote, -, hhead, -⟩ := h
  cases token with
  | nil => cases hhead
  | cons c cs =>
      rw [Text.utf8, List.flatMap_cons]
      exact List.append_ne_nil_of_left_ne_nil String.utf8EncodeChar_ne_nil _

/-- A literal that is written somewhere is not empty, so its reference has its length. -/
theorem Module.IsExact.reference {m : Module} {parsed : Text} (h : m.IsExact parsed)
    {items : List Tree} (hi : m.items = .ok items) {r : Reference}
    (hr : r ∈ items.flatMap Tree.references) :
    ∃ token, IsLiteral token r.specifier ∧ parsed.bytesAt r.start r.length = token.utf8 := by
  obtain ⟨t, ht, hr⟩ := List.mem_flatMap.mp hr
  obtain ⟨l, hl, rfl⟩ := List.mem_map.mp (t.references_subset hr)
  obtain ⟨token, hliteral, hbytes⟩ := h items hi l (List.mem_flatMap.mpr ⟨t, ht, hl⟩)
  have hpos : 1 ≤ l.span.hi - l.span.lo := Nat.pos_of_ne_zero fun h0 =>
    hliteral.utf8_ne_nil (by rw [← hbytes, h0, Text.bytesAt, List.take_zero])
  refine ⟨token, hliteral, ?_⟩
  rwa [Literal.reference, Nat.max_eq_left hpos]

end Syntax

/-! ### Where faults are -/

namespace ImportCheck

/-- What is parsed of a file, if it is a source. -/
def parsed (path : Path) (text : Text) : Option Module :=
  ((ModuleKind.ofPath path).bind Dialect.ofKind).map fun d => .ofText d (withoutMark text)

/-- A diagnostic says of a specifier that it leads nowhere, or nowhere with types. -/
def Names (d : Diagnostic) (specifier : Text) : Prop :=
  let name := String.ofList specifier
  d.message = s!"Cannot find module '{name}' or its corresponding type declarations." ∨
    d.message = s!"Could not find a declaration file for module '{name}'."

/-- The bytes of a diagnostic are those of the literal whose value it names, if `before` bytes
come before those that it counts. -/
def AtLiteral (path : Path) (text : Text) (before : Nat) (d : Diagnostic) : Prop :=
  ∃ specifier token start length, Names d specifier ∧ IsLiteral token specifier ∧
    d.file = some path ∧ d.start = some start ∧ d.length = some length ∧
      text.bytesAt (before + start) length = token.utf8

/-- The fault of a reference names it, and stands where the reference does. -/
theorem faultOf_spec {options : CompilerOptions} {path : Path} {r : Reference}
    {found : Option ResolvedModule} {d : Diagnostic} (h : faultOf options path r found = some d) :
    Names d r.specifier ∧ d.file = some path ∧ d.start = some r.start ∧
      d.length = some r.length := by
  unfold faultOf at h
  cases found with
  | none =>
      cases h
      exact ⟨Or.inl rfl, rfl, rfl, rfl⟩
  | some m =>
      simp only at h
      split at h
      · cases h
        exact ⟨Or.inr rfl, rfl, rfl, rfl⟩
      · cases h

/-- The references of a file are those of what is parsed. -/
theorem exists_items_of_mem_references {path : Path} {text : Text} {kind : ModuleKind}
    (hk : ModuleKind.ofPath path = some kind) {r : Reference}
    (hr : r ∈ (SourceFacts.ofText kind text).references) :
    ∃ m ∈ parsed path text, ∃ items, m.items = .ok items ∧ r ∈ items.flatMap Tree.references := by
  unfold SourceFacts.ofText at hr
  cases hd : Dialect.ofKind kind with
  | none =>
      rw [hd] at hr
      cases hr
  | some d =>
      rw [hd] at hr
      refine ⟨.ofText d (withoutMark text), by rw [parsed, hk, Option.bind_some, hd]; rfl, ?_⟩
      simp only [SourceFacts.ofModule] at hr
      cases hi : (Module.ofText d (withoutMark text)).items with
      | error f =>
          rw [hi] at hr
          cases hr
      | ok items =>
          rw [hi] at hr
          exact ⟨items, rfl, hr⟩

/-- **Faults of references are at their literals**, if what is parsed is exact: behind the mark,
whose bytes they do not count.  So they are where they say in every text without it. -/
theorem faults_at_literals {view : FileView} {file path : Path} {text : Text} {h : Host}
    {s : State} {ds : List Diagnostic} (hs : ((source view file).run h).1 = .ok (path, text))
    (hexact : ∀ m ∈ parsed path text, m.IsExact (withoutMark text))
    (hd : (diagnostics view file h s).1 = .ok ds) :
    ∀ d ∈ ds, d.code = unknownModuleCode ∨ d.code = untypedModuleCode →
      AtLiteral path text text.markLength d := by
  obtain ⟨path', text', h', library, found, hrun, hlibrary, hfound, rfl⟩ := diagnostics_eq_ok hd
  obtain ⟨rfl, rfl⟩ : path' = path ∧ text' = text := by
    rw [hrun] at hs
    cases hs
    exact ⟨rfl, rfl⟩
  intro d hm hcode
  rcases List.mem_append.mp hm with hm | hm
  · obtain ⟨lib, rfl⟩ := eq_missingLibrary_of_checkLibrary hlibrary hm
    rcases hcode with hcode | hcode <;> cases hcode
  · obtain ⟨kind, hk, ⟨p, -, rfl⟩ | ⟨r, hr, options, m, hf⟩⟩ := checkText_eq_ok hfound hm
    · rcases hcode with hcode | hcode <;> cases hcode
    · obtain ⟨m, hm, items, hi, hr⟩ := exists_items_of_mem_references hk hr
      obtain ⟨token, hliteral, hbytes⟩ := (hexact m hm).reference hi hr
      obtain ⟨hnames, hfile, hstart, hlength⟩ := faultOf_spec hf
      rw [Text.bytesAt_withoutMark] at hbytes
      exact ⟨_, token, _, _, hnames, hliteral, hfile, hstart, hlength, hbytes⟩

theorem eq_ok_of_toOption {ε α : Type} {x : Except ε α} {a : α} (h : x.toOption = some a) :
    x = .ok a := by
  cases x with
  | error e => cases h
  | ok b => exact congrArg Except.ok (Option.some.inj h)

/-- A source with one reference, which leads nowhere. -/
def lonely : Text := "import './x';".toList

/-- What is parsed of it is exact. -/
theorem isExact_lonely :
    ∀ m ∈ parsed (.ofString "/p/a.ts") lonely, m.IsExact (withoutMark lonely) := by
  have hliterals : (parsed (.ofString "/p/a.ts") lonely).map (fun m =>
      m.items.toOption.map (List.flatMap Tree.literals)) =
        some (some [⟨"./x".toList, ⟨7, 12⟩⟩]) := by decide +kernel
  intro m hm items hi l hl
  rw [Option.mem_def.mp hm, Option.map_some, hi] at hliterals
  rw [Option.some.inj (Option.some.inj hliterals), List.mem_singleton] at hl
  subst hl
  exact ⟨"'./x'".toList, ⟨'\'', Or.inl rfl, rfl, eq_ok_of_toOption (by decide +kernel)⟩,
    by decide +kernel⟩

/-- A session for a file with a text. -/
def alone (text : Text) : FileView × Host :=
  let view := (MemoryTree.ofFiles [(.ofString "/p/a.ts", text)]).view
  (view, .new view default (.ofString "/p") [] none)

/-- The faults that it finds. -/
def faultsAlone (text : Text) : Except LintError (List Diagnostic) :=
  (diagnostics (alone text).1 (.ofString "/p/a.ts") (alone text).2 {}).1

/-- The fault of the reference, with its place. -/
theorem fault_lonely (mark : Text) (hmark : mark = [] ∨ mark = ['\uFEFF']) :
    faultsAlone (mark ++ lonely) = .ok [.located .error unknownModuleCode
      "Cannot find module './x' or its corresponding type declarations."
      (.ofString "/p/a.ts") 7 5] := by
  rcases hmark with rfl | rfl <;> exact eq_ok_of_toOption (by decide +kernel)

theorem source_lonely (mark : Text) (hmark : mark = [] ∨ mark = ['\uFEFF']) :
    ((source (alone (mark ++ lonely)).1 (.ofString "/p/a.ts")).run
      (alone (mark ++ lonely)).2).1 = .ok (.ofString "/p/a.ts", mark ++ lonely) := by
  rcases hmark with rfl | rfl <;> exact eq_ok_of_toOption (by decide +kernel)

/-- The reference of a source without a mark is found where it stands. -/
theorem atLiteral_lonely :
    ∃ d, faultsAlone lonely = .ok [d] ∧ AtLiteral (.ofString "/p/a.ts") lonely 0 d := by
  have hf := fault_lonely [] (Or.inl rfl)
  exact ⟨_, hf, faults_at_literals (source_lonely [] (Or.inl rfl)) isExact_lonely hf _
    List.mem_cons_self (Or.inl rfl)⟩

/-- **Behind a mark the literal is missed**: the fault is placed three bytes before it. -/
theorem misplaced_behind_mark :
    let text := '\uFEFF' :: lonely
    ((source (alone text).1 (.ofString "/p/a.ts")).run (alone text).2).1 =
        .ok (.ofString "/p/a.ts", text) ∧
      (∀ m ∈ parsed (.ofString "/p/a.ts") text, m.IsExact (withoutMark text)) ∧
      ∃ d, faultsAlone text = .ok [d] ∧ d.code = unknownModuleCode ∧
        ¬ AtLiteral (.ofString "/p/a.ts") text 0 d := by
  refine ⟨source_lonely ['\uFEFF'] (Or.inr rfl), isExact_lonely, _,
    fault_lonely ['\uFEFF'] (Or.inr rfl), rfl, ?_⟩
  rintro ⟨specifier, token, start, length, -, ⟨quote, hquote, hhead, -⟩, -, hstart, hlength, hbytes⟩
  cases hstart
  cases hlength
  -- the bytes from 7 on begin in the keyword, and a literal begins with a quote
  cases token with
  | nil => cases hhead
  | cons c cs =>
      obtain rfl : c = quote := Option.some.inj hhead
      rw [Text.utf8, List.flatMap_cons] at hbytes
      have hfirst : (Text.bytesAt ('\uFEFF' :: lonely) (0 + 7) 5).head? = some 'r'.toUInt8 := by
        decide +kernel
      rw [hbytes] at hfirst
      rcases hquote with rfl | rfl
      · exact absurd (show some '\''.toUInt8 = some 'r'.toUInt8 from hfirst) (by decide)
      · exact absurd (show some '"'.toUInt8 = some 'r'.toUInt8 from hfirst) (by decide)

end ImportCheck

end ImportLint
