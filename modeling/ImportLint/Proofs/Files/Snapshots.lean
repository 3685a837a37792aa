import ImportLint.Files.Snapshot
import ImportLint.Proofs.Path.Normal

/-!
# Files — what a table of snapshots knows

All that matters of a table is what it knows of each path: nothing, or that there is a file, or
the text of the file.  A request for a text reads from the file system what is not known yet,
so a text that is known stays the same whatever happens to the file.

* `SnapshotTable.WellFormed`: the snapshot of a path has the path's normal form, and the lines that
  are kept are those of the text.
* `SnapshotTable.known`: what a table knows of a path.
* `SnapshotTable.fetch`: the snapshot of a path and then its text; `lookUp` is the same, told of
  what is known of the path.
* `WellFormed.fetch`, `WellFormed.dispose`: what the two requests do.
* `Reliable`: what is known is what the files are; requests in one view keep it.
-/

namespace ImportLint.SnapshotTable

variable {t : SnapshotTable}

/-- The snapshots in a table have the paths that they are in the table for, and all that were ever
made keep the lines of their texts, if any. -/
structure WellFormed (t : SnapshotTable) : Prop where
  current : ∀ key id, t.current.get? key = some id →
    id < t.made.size ∧ ∃ p : Path, (t.snapshot id).path = p.normalize ∧
      p.normalize.components = key
  lines : ∀ id table, (t.snapshot id).lines = some table →
    ∃ text, (t.snapshot id).loaded = some text ∧ table = .ofText text

/-- What a table knows of a path: nothing, or that it is a file, or its text. -/
def known (t : SnapshotTable) (p : Path) : Option (Option Text) :=
  (t.current.get? p.normalize.components).map fun id => (t.snapshot id).loaded

/-- The text of a path, if it is a file. -/
def fetch (t : SnapshotTable) (view : FileView) (p : Path) :
    Except LintError (Option Text) × SnapshotTable :=
  match t.get view p with
  | (.error e, t) => (.error e, t)
  | (.ok none, t) => (.ok none, t)
  | (.ok (some id), t) => ((t.text view id).1.map some, (t.text view id).2)

/-- The text of a file that has not been read, and what is known of it then. -/
def readUp (view : FileView) (p : Path) : Except LintError (Option Text) × Option (Option Text) :=
  match view.read p with
  | .error f => (.error (.fileRead p f), some none)
  | .ok text => (.ok (some text), some (some text))

/-- The text of a path, given what is known of it, and what is known of it then. -/
def lookUp (view : FileView) (p : Path) :
    Option (Option Text) → Except LintError (Option Text) × Option (Option Text)
  | some (some text) => (.ok (some text), some (some text))
  | some none => readUp view p
  | none =>
    match view.fileExists p with
    | .error e => (.error e, none)
    | .ok false => (.ok none, none)
    | .ok true => readUp view p

/-! ### Well-formed tables -/

/-- There is no snapshot behind those that were made. -/
theorem snapshot_of_not_lt {id : Nat} (hid : ¬ id < t.made.size) : t.snapshot id = default := by
  rw [snapshot, Array.getElem?_eq_none (Nat.le_of_not_lt hid)]
  rfl

/-- A snapshot with a text is one that was made. -/
theorem lt_of_loaded {id : Nat} {text : Text} (h : (t.snapshot id).loaded = some text) :
    id < t.made.size := by
  refine Decidable.byContradiction fun hid => ?_
  rw [snapshot_of_not_lt hid] at h
  cases h

theorem wellFormed_empty : WellFormed {} where
  current _ _ h := by cases h
  lines id table h := by
    rw [snapshot_of_not_lt (Nat.not_lt_zero id)] at h
    cases h

theorem WellFormed.path_eq (hw : t.WellFormed) {p : Path} {id : Nat}
    (hid : t.current.get? p.normalize.components = some id) :
    (t.snapshot id).path = p.normalize := by
  obtain ⟨-, q, hq, hkey⟩ := hw.current _ _ hid
  exact hq.trans (Path.Same.eq_of_normalize hkey)

/-- A snapshot is in the table for one path only. -/
theorem WellFormed.key_eq (hw : t.WellFormed) {key key' : List Component} {id : Nat}
    (hid : t.current.get? key = some id) (hid' : t.current.get? key' = some id) : key = key' := by
  obtain ⟨-, p, hp, rfl⟩ := hw.current _ _ hid
  obtain ⟨-, p', hp', rfl⟩ := hw.current _ _ hid'
  rw [← hp, ← hp']

theorem components_ne_of_normalize_ne {p q : Path} (hne : q.normalize ≠ p.normalize) :
    q.normalize.components ≠ p.normalize.components := fun h => hne (Path.Same.eq_of_normalize h)

/-- What is known of a path is known of all its spellings. -/
theorem known_congr (t : SnapshotTable) {p q : Path} (h : q.normalize = p.normalize) :
    t.known q = t.known p := by
  rw [known, known, h]

/-! ### A new snapshot -/

/-- The table with a snapshot for a path. -/
def enter (t : SnapshotTable) (p : Path) : SnapshotTable where
  made := t.made.push { path := p.normalize }
  current := t.current.insert p.normalize.components t.made.size

theorem snapshot_enter (t : SnapshotTable) (p : Path) (id : Nat) :
    (t.enter p).snapshot id =
      if id = t.made.size then { path := p.normalize } else t.snapshot id := by
  rw [snapshot, enter, Array.getElem?_push]
  split <;> rfl

theorem WellFormed.enter (hw : t.WellFormed) (p : Path) : (t.enter p).WellFormed where
  current key id h := by
    rw [SnapshotTable.enter, Table.get?_insert] at h
    rw [snapshot_enter, SnapshotTable.enter, Array.size_push]
    split at h
    · next e =>
      cases h
      exact ⟨Nat.lt_succ_self _, p, by rw [if_pos rfl], e.symm⟩
    · obtain ⟨hlt, hq⟩ := hw.current key id h
      rw [if_neg (Nat.ne_of_lt hlt)]
      exact ⟨Nat.lt_succ_of_lt hlt, hq⟩
  lines id table h := by
    rw [snapshot_enter] at h ⊢
    split at h
    · cases h
    · next hne =>
      rw [if_neg hne]
      exact hw.lines id table h

theorem WellFormed.known_enter (hw : t.WellFormed) (p q : Path) :
    (t.enter p).known q = if q.normalize = p.normalize then some none else t.known q := by
  change ((t.current.insert _ t.made.size).get? _).map _ = _
  rw [Table.get?_insert]
  by_cases e : q.normalize = p.normalize
  · rw [e, if_pos rfl, if_pos rfl, Option.map_some, snapshot_enter, if_pos rfl]
  · rw [if_neg (components_ne_of_normalize_ne e), if_neg e, known]
    cases h : t.current.get? q.normalize.components with
    | none => rfl
    | some id =>
        rw [Option.map_some, Option.map_some, snapshot_enter,
          if_neg (Nat.ne_of_lt (hw.current _ id h).1)]

/-! ### A new text -/

/-- The table with another text, or none, for a snapshot, and without lines of that. -/
def load (t : SnapshotTable) (id : Nat) (text : Option Text) : SnapshotTable :=
  { t with made := t.made.modify id fun s => { s with loaded := text, lines := none } }

theorem snapshot_load {id : Nat} (hid : id < t.made.size) (text : Option Text) (id' : Nat) :
    (t.load id text).snapshot id' =
      if id' = id then { t.snapshot id with loaded := text, lines := none }
      else t.snapshot id' := by
  rw [snapshot, load, Array.getElem?_modify]
  by_cases h : id = id'
  · subst h
    rw [if_pos rfl, if_pos rfl, snapshot, Array.getElem?_eq_getElem hid]
    rfl
  · rw [if_neg h, if_neg (Ne.symm h), snapshot]

theorem size_load (t : SnapshotTable) (id : Nat) (text : Option Text) :
    (t.load id text).made.size = t.made.size :=
  Array.size_modify ..

theorem snapshot_load_of_ne (t : SnapshotTable) {id id' : Nat} (h : id' ≠ id)
    (text : Option Text) : (t.load id text).snapshot id' = t.snapshot id' := by
  simp [snapshot, SnapshotTable.load, Array.getElem?_modify, Ne.symm h]

/-- A number that no snapshot has changes nothing. -/
theorem modify_of_not_lt {id : Nat} (hid : ¬ id < t.made.size) (f : Snapshot → Snapshot) :
    t.made.modify id f = t.made := by
  simp [Array.modify, Array.modifyM, hid]

theorem load_of_not_lt {id : Nat} (hid : ¬ id < t.made.size) (text : Option Text) :
    t.load id text = t := by
  rw [load, modify_of_not_lt hid]

theorem WellFormed.load (hw : t.WellFormed) (id : Nat) (text : Option Text) :
    (t.load id text).WellFormed := by
  by_cases hid : id < t.made.size
  · refine ⟨fun key id' h => ?_, fun id' table h => ?_⟩
    · rw [snapshot_load hid]
      obtain ⟨hlt, hq⟩ := hw.current key id' h
      refine ⟨by rwa [size_load], ?_⟩
      split
      · next e => exact e ▸ hq
      · exact hq
    · rw [snapshot_load hid] at h ⊢
      split at h
      · cases h
      · next hne =>
        rw [if_neg hne]
        exact hw.lines id' table h
  · rwa [load_of_not_lt hid]

theorem WellFormed.known_load (hw : t.WellFormed) {p : Path} {id : Nat}
    (hid : t.current.get? p.normalize.components = some id) (text : Option Text) (q : Path) :
    (t.load id text).known q = if q.normalize = p.normalize then some text else t.known q := by
  have hlt := (hw.current _ _ hid).1
  rw [known, known]
  change (t.current.get? _).map _ = _
  by_cases e : q.normalize = p.normalize
  · rw [e, hid, if_pos rfl, Option.map_some, snapshot_load hlt, if_pos rfl]
  · rw [if_neg e]
    cases h : t.current.get? q.normalize.components with
    | none => rfl
    | some id' =>
        have hne : id' ≠ id := fun e' => components_ne_of_normalize_ne e (hw.key_eq (e' ▸ h) hid)
        rw [Option.map_some, Option.map_some, snapshot_load hlt, if_neg hne]

/-! ### Requests -/

/-- The snapshot that is got for a path has its normal form. -/
theorem WellFormed.path_of_get (hw : t.WellFormed) {view : FileView} {p : Path} {id : Nat}
    (hg : (t.get view p).1 = .ok (some id)) :
    ((t.get view p).2.snapshot id).path = p.normalize := by
  unfold SnapshotTable.get at hg ⊢
  simp only at hg ⊢
  split at hg
  · next hid =>
    cases hg
    exact hw.path_eq hid
  · split at hg
    · cases hg
    · cases hg
    · cases hg
      exact congrArg Snapshot.path ((snapshot_enter t p _).trans (if_pos rfl))

theorem WellFormed.snd_get (hw : t.WellFormed) (view : FileView) (p : Path) :
    (t.get view p).2.WellFormed := by
  unfold SnapshotTable.get
  simp only
  split
  · exact hw
  · split
    · exact hw
    · exact hw
    · exact hw.enter p

/-- The text of a snapshot that has been read. -/
theorem text_of_loaded {view : FileView} {id : Nat} {text : Text}
    (h : (t.snapshot id).loaded = some text) : t.text view id = (.ok text, t) := by
  simp only [SnapshotTable.text, h]

/-- The text of a snapshot that has not been read. -/
theorem text_of_unloaded {view : FileView} {id : Nat} (h : (t.snapshot id).loaded = none) :
    t.text view id =
      match view.read (t.snapshot id).path with
      | .error f => (.error (.fileRead (t.snapshot id).path f), t)
      | .ok text => (.ok text, t.load id (some text)) := by
  simp only [SnapshotTable.text, h]
  rfl

/-- A text that is not told leaves the table as it was. -/
theorem snd_text_of_error {view : FileView} {id : Nat} {f : LintError}
    (h : (t.text view id).1 = .error f) : (t.text view id).2 = t := by
  cases hl : (t.snapshot id).loaded with
  | some text => rw [text_of_loaded hl]
  | none =>
      rw [text_of_unloaded hl] at h ⊢
      cases hr : view.read (t.snapshot id).path with
      | error f => rfl
      | ok text =>
          rw [hr] at h
          cases h

theorem WellFormed.snd_text (hw : t.WellFormed) (view : FileView) (id : Nat) :
    (t.text view id).2.WellFormed := by
  cases hl : (t.snapshot id).loaded with
  | some text => rwa [text_of_loaded hl]
  | none =>
      rw [text_of_unloaded hl]
      cases view.read (t.snapshot id).path with
      | error f => exact hw
      | ok text => exact hw.load id (some text)

/-- What a request for the text of a snapshot does. -/
theorem WellFormed.text (hw : t.WellFormed) (view : FileView) {p : Path} {id : Nat}
    (hid : t.current.get? p.normalize.components = some id) :
    ((t.text view id).1.map some, (t.text view id).2.known p) =
        lookUp view p.normalize (t.known p) ∧
      (t.text view id).2.WellFormed ∧
      ∀ q, q.normalize ≠ p.normalize → (t.text view id).2.known q = t.known q := by
  have hknown : t.known p = some (t.snapshot id).loaded := by rw [known, hid]; rfl
  have hpath := hw.path_eq hid
  unfold SnapshotTable.text
  simp only
  cases hl : (t.snapshot id).loaded with
  | some text => exact ⟨by rw [hknown, hl]; rfl, hw, fun _ _ => rfl⟩
  | none =>
      rw [hknown, hl, lookUp, readUp, hpath]
      cases hr : view.read p.normalize with
      | error f => exact ⟨by simp only [hknown, hl]; rfl, hw, fun _ _ => rfl⟩
      | ok text =>
          refine ⟨Prod.ext rfl ?_, hw.load id (some text), fun q hq => ?_⟩
          · exact (hw.known_load hid (some text) p).trans (if_pos rfl)
          · exact (hw.known_load hid (some text) q).trans (if_neg hq)

/-- **What a request for the text of a path does**: it tells what is known, or reads it. -/
theorem WellFormed.fetch (hw : t.WellFormed) (view : FileView) (p : Path) :
    ((t.fetch view p).1, (t.fetch view p).2.known p) = lookUp view p.normalize (t.known p) ∧
      (t.fetch view p).2.WellFormed ∧
      ∀ q, q.normalize ≠ p.normalize → (t.fetch view p).2.known q = t.known q := by
  unfold SnapshotTable.fetch SnapshotTable.get
  simp only
  cases hid : t.current.get? p.normalize.components with
  | some id => exact hw.text view hid
  | none =>
      have hknown : t.known p = none := by rw [known, hid]; rfl
      rw [hknown, lookUp]
      cases hview : view.fileExists p.normalize with
      | error e => exact ⟨by simp only [hknown], hw, fun _ _ => rfl⟩
      | ok found =>
          cases found with
          | false => exact ⟨by simp only [hknown], hw, fun _ _ => rfl⟩
          | true =>
              have hid' : (t.enter p).current.get? p.normalize.components = some t.made.size := by
                rw [SnapshotTable.enter, Table.get?_insert, if_pos rfl]
              obtain ⟨hread, hw', hq⟩ := (hw.enter p).text view hid'
              rw [hw.known_enter, if_pos rfl] at hread
              refine ⟨hread, hw', fun q hne => (hq q hne).trans ?_⟩
              rw [hw.known_enter, if_neg hne]

/-- **What disposing of a snapshot does**: nothing is known of its path. -/
theorem WellFormed.dispose (hw : t.WellFormed) (p : Path) :
    (t.dispose p).2.known p = none ∧ (t.dispose p).2.WellFormed ∧
      ∀ q, q.normalize ≠ p.normalize → (t.dispose p).2.known q = t.known q := by
  unfold SnapshotTable.dispose
  simp only
  cases hid : t.current.get? p.normalize.components with
  | none => exact ⟨by rw [known, hid]; rfl, hw, fun _ _ => rfl⟩
  | some id =>
      have hloaded := hw.load id none
      refine ⟨?_, ⟨fun key id' h => ?_, hloaded.lines⟩, fun q hne => ?_⟩
      · rw [known, Table.get?_erase, if_pos rfl]
        rfl
      · rw [Table.get?_erase] at h
        split at h
        · cases h
        · exact hloaded.current key id' h
      · rw [known, Table.get?_erase, if_neg (components_ne_of_normalize_ne hne)]
        exact (hw.known_load hid none q).trans (if_neg hne)

/-- A text that is known is told again, and nothing else changes. -/
theorem fetch_of_known (view : FileView) {p : Path} {text : Text}
    (hk : t.known p = some (some text)) : t.fetch view p = (.ok (some text), t) := by
  obtain ⟨id, hid, hl⟩ := Option.map_eq_some_iff.mp hk
  rw [fetch, get, hid]
  simp only [SnapshotTable.text, hl]
  rfl

/-- A text that a request gives is known from then on. -/
theorem WellFormed.known_of_fetch (hw : t.WellFormed) {view : FileView} {p : Path} {text : Text}
    (hf : (t.fetch view p).1 = .ok (some text)) :
    (t.fetch view p).2.known p = some (some text) := by
  have hread : ∀ k, (lookUp view p.normalize k).1 = .ok (some text) →
      (lookUp view p.normalize k).2 = some (some text) := by
    have hup : (readUp view p.normalize).1 = .ok (some text) →
        (readUp view p.normalize).2 = some (some text) := by
      unfold readUp
      split
      · exact fun h => by cases h
      · exact fun h => by cases h; rfl
    intro k
    unfold lookUp
    split
    · exact fun h => by cases h; rfl
    · exact hup
    · split
      · exact fun h => by cases h
      · exact fun h => by cases h
      · exact hup
  obtain ⟨he, -, -⟩ := hw.fetch view p
  have h₁ := congrArg Prod.fst he
  have h₂ := congrArg Prod.snd he
  exact h₂.trans (hread _ (h₁.symm.trans hf))

/-- Requests for texts and disposals of other paths leave a text as it is known. -/
theorem WellFormed.known_fetch_of_known (hw : t.WellFormed) (view : FileView) (p : Path) {q : Path}
    {text : Text} (hk : t.known q = some (some text)) :
    (t.fetch view p).2.known q = some (some text) := by
  by_cases e : q.normalize = p.normalize
  · rw [known_congr t e] at hk
    rw [fetch_of_known view hk, known_congr t e, hk]
  · rw [(hw.fetch view p).2.2 q e, hk]

/-! ### Files that stay as they are -/

/-- Looking up once more tells the same. -/
theorem lookUp_lookUp (view : FileView) (p : Path) (k : Option (Option Text)) :
    (lookUp view p (lookUp view p k).2).1 = (lookUp view p k).1 := by
  have hup : (lookUp view p (readUp view p).2).1 = (readUp view p).1 := by
    unfold readUp
    cases h : view.read p with
    | error f => simp only [lookUp, readUp, h]
    | ok text => rfl
  match k with
  | some (some text) => rfl
  | some none => exact hup
  | none =>
      rw [lookUp]
      cases h : view.fileExists p with
      | error e => simp only [lookUp, h]
      | ok found =>
          cases found with
          | false => simp only [lookUp, h]
          | true => exact hup

/-- What is known of a path is what a table that knows nothing would be told. -/
def Reliable (t : SnapshotTable) (view : FileView) : Prop :=
  ∀ p : Path, (lookUp view p.normalize (t.known p)).1 = (lookUp view p.normalize none).1

theorem reliable_empty (view : FileView) : Reliable {} view := fun _ => rfl

/-- The text of a path, told from the files alone. -/
theorem Reliable.fst_fetch {view : FileView} (hr : t.Reliable view) (hw : t.WellFormed)
    (p : Path) : (t.fetch view p).1 = (lookUp view p.normalize none).1 :=
  (congrArg Prod.fst (hw.fetch view p).1).trans (hr p)

theorem Reliable.fetch {view : FileView} (hr : t.Reliable view) (hw : t.WellFormed) (p : Path) :
    (t.fetch view p).2.Reliable view := by
  obtain ⟨he, -, hother⟩ := hw.fetch view p
  intro q
  by_cases e : q.normalize = p.normalize
  · rw [known_congr _ e, e, show (t.fetch view p).2.known p = _ from congrArg Prod.snd he,
      lookUp_lookUp]
    exact hr p
  · rw [hother q e]
    exact hr q

theorem Reliable.dispose {view : FileView} (hr : t.Reliable view) (hw : t.WellFormed) (p : Path) :
    (t.dispose p).2.Reliable view := by
  obtain ⟨hnone, -, hother⟩ := hw.dispose p
  intro q
  by_cases e : q.normalize = p.normalize
  · rw [known_congr _ e, hnone]
  · rw [hother q e]
    exact hr q

end ImportLint.SnapshotTable
