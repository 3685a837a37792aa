import ImportLint.Proofs.Files.Snapshots

/-!
# Files — lines that are kept

A snapshot keeps the lines of its text from the first request for them on.  They are always those
of its text, so it does not show whether they were kept, and tables can be compared without them.

* `SnapshotTable.withoutLines`: a table without the lines that it keeps.
* `get_withoutLines`, `text_withoutLines`, `dispose_withoutLines`: no other request looks at lines.
* `SnapshotTable.note`: a table that keeps the lines of a snapshot.
* `SnapshotTable.Notes`: what a request for lines leaves as it was.
* `WellFormed.lineTable`: what such a request is answered with.
-/

namespace ImportLint

/-- What is told of one item after another does not change if the item changes otherwise. -/
theorem map_modify_eq {α β : Type} {g : α → β} {f : α → α} (h : ∀ x, g (f x) = g x)
    (xs : Array α) (i : Nat) : (xs.modify i f).map g = xs.map g := by
  refine Array.ext_getElem? fun j => ?_
  rw [Array.getElem?_map, Array.getElem?_map, Array.getElem?_modify]
  split
  · rw [Option.map_map]
    exact congrArg (xs[j]?.map ·) (funext h)
  · rfl

theorem map_modify {α β : Type} {g : α → β} {f : α → α} (f' : β → β)
    (h : ∀ x, g (f x) = f' (g x)) (xs : Array α) (i : Nat) :
    (xs.modify i f).map g = (xs.map g).modify i f' := by
  refine Array.ext_getElem? fun j => ?_
  rw [Array.getElem?_map, Array.getElem?_modify, Array.getElem?_modify, Array.getElem?_map]
  split
  · rw [Option.map_map, Option.map_map]
    exact congrArg (xs[j]?.map ·) (funext h)
  · rfl

/-- A snapshot without the lines that it keeps. -/
def Snapshot.withoutLines (s : Snapshot) : Snapshot := { s with lines := none }

namespace SnapshotTable

variable {t t' : SnapshotTable}

/-! ### Tables without lines -/

/-- The table without the lines that it keeps. -/
def withoutLines (t : SnapshotTable) : SnapshotTable :=
  { t with made := t.made.map Snapshot.withoutLines }

@[simp] theorem withoutLines_withoutLines (t : SnapshotTable) :
    t.withoutLines.withoutLines = t.withoutLines := by
  rw [withoutLines, withoutLines, Array.map_map]
  rfl

theorem snapshot_withoutLines (t : SnapshotTable) (id : Nat) :
    t.withoutLines.snapshot id = (t.snapshot id).withoutLines := by
  rw [snapshot, snapshot, withoutLines, Array.getElem?_map]
  cases t.made[id]? <;> rfl

theorem path_withoutLines (t : SnapshotTable) (id : Nat) :
    (t.withoutLines.snapshot id).path = (t.snapshot id).path := by
  rw [snapshot_withoutLines, Snapshot.withoutLines]

theorem loaded_withoutLines (t : SnapshotTable) (id : Nat) :
    (t.withoutLines.snapshot id).loaded = (t.snapshot id).loaded := by
  rw [snapshot_withoutLines, Snapshot.withoutLines]

theorem size_withoutLines (t : SnapshotTable) : t.withoutLines.made.size = t.made.size :=
  Array.size_map

theorem known_withoutLines (t : SnapshotTable) (p : Path) : t.withoutLines.known p = t.known p := by
  simp only [known, loaded_withoutLines]
  rfl

/-- Two tables that differ in lines know the same. -/
theorem known_eq (h : t'.withoutLines = t.withoutLines) (p : Path) : t'.known p = t.known p := by
  rw [← known_withoutLines, h, known_withoutLines]

theorem withoutLines_enter (t : SnapshotTable) (p : Path) :
    (t.enter p).withoutLines = t.withoutLines.enter p := by
  rw [enter, withoutLines, Array.map_push, enter, size_withoutLines]
  rfl

theorem withoutLines_load (t : SnapshotTable) (id : Nat) (text : Option Text) :
    (t.load id text).withoutLines = t.withoutLines.load id text := by
  let read (s : Snapshot) : Snapshot := { s with loaded := text, lines := none }
  exact congrArg (fun made => (⟨made, t.current⟩ : SnapshotTable))
    (map_modify (g := Snapshot.withoutLines) (f := read) read (fun _ => rfl) t.made id)

/-- Getting a snapshot does not depend on lines. -/
theorem get_withoutLines (t : SnapshotTable) (view : FileView) (p : Path) :
    t.withoutLines.get view p = ((t.get view p).1, (t.get view p).2.withoutLines) := by
  unfold SnapshotTable.get
  simp only [show t.withoutLines.current = t.current from rfl, size_withoutLines]
  cases t.current.get? p.normalize.components with
  | some id => rfl
  | none =>
      simp only
      cases view.fileExists p.normalize with
      | error e => rfl
      | ok found =>
          cases found with
          | false => rfl
          | true => exact congrArg (Prod.mk _) ((t.withoutLines_enter p).trans (by
              rw [enter, size_withoutLines]; rfl)).symm

/-- Reading a text does not depend on lines. -/
theorem text_withoutLines (t : SnapshotTable) (view : FileView) (id : Nat) :
    t.withoutLines.text view id = ((t.text view id).1, (t.text view id).2.withoutLines) := by
  have hloaded := t.loaded_withoutLines id
  cases hl : (t.snapshot id).loaded with
  | some text =>
      rw [hl] at hloaded
      rw [text_of_loaded hl, text_of_loaded hloaded]
  | none =>
      rw [hl] at hloaded
      rw [text_of_unloaded hl, text_of_unloaded hloaded, path_withoutLines]
      cases view.read (t.snapshot id).path with
      | error f => rfl
      | ok text => exact congrArg (Prod.mk _) (t.withoutLines_load id (some text)).symm

/-- Nor does disposing of a snapshot. -/
theorem dispose_withoutLines (t : SnapshotTable) (p : Path) :
    t.withoutLines.dispose p = ((t.dispose p).1, (t.dispose p).2.withoutLines) := by
  unfold SnapshotTable.dispose
  simp only [show t.withoutLines.current = t.current from rfl]
  cases t.current.get? p.normalize.components with
  | none => rfl
  | some id =>
      exact congrArg (fun t' : SnapshotTable =>
        (true, (⟨t'.made, t.current.erase p.normalize.components⟩ : SnapshotTable)))
        (t.withoutLines_load id none).symm

/-! ### Lines that are noted -/

/-- The table that keeps the lines of a snapshot. -/
def note (t : SnapshotTable) (id : Nat) (table : LineTable) : SnapshotTable :=
  { t with made := t.made.modify id fun s => { s with lines := some table } }

theorem size_note (t : SnapshotTable) (id : Nat) (table : LineTable) :
    (t.note id table).made.size = t.made.size :=
  Array.size_modify ..

theorem snapshot_note {id : Nat} (hid : id < t.made.size) (table : LineTable) (id' : Nat) :
    (t.note id table).snapshot id' =
      if id' = id then { t.snapshot id with lines := some table } else t.snapshot id' := by
  rw [snapshot, note, Array.getElem?_modify]
  by_cases h : id = id'
  · subst h
    rw [if_pos rfl, if_pos rfl, snapshot, Array.getElem?_eq_getElem hid]
    rfl
  · rw [if_neg h, if_neg (Ne.symm h), snapshot]

theorem withoutLines_note (t : SnapshotTable) (id : Nat) (table : LineTable) :
    (t.note id table).withoutLines = t.withoutLines := by
  let noted (s : Snapshot) : Snapshot := { s with lines := some table }
  exact congrArg (fun made => (⟨made, t.current⟩ : SnapshotTable))
    (map_modify_eq (g := Snapshot.withoutLines) (f := noted) (fun _ => rfl) t.made id)

theorem path_note (t : SnapshotTable) (id : Nat) (table : LineTable) (id' : Nat) :
    ((t.note id table).snapshot id').path = (t.snapshot id').path := by
  rw [← path_withoutLines, withoutLines_note, path_withoutLines]

theorem loaded_note (t : SnapshotTable) (id : Nat) (table : LineTable) (id' : Nat) :
    ((t.note id table).snapshot id').loaded = (t.snapshot id').loaded := by
  rw [← loaded_withoutLines, withoutLines_note, loaded_withoutLines]

theorem note_of_not_lt {id : Nat} (hid : ¬ id < t.made.size) (table : LineTable) :
    t.note id table = t := by
  rw [note, modify_of_not_lt hid]

/-- The lines of a text can be noted with it. -/
theorem WellFormed.note (hw : t.WellFormed) {id : Nat} {text : Text}
    (hl : id < t.made.size → (t.snapshot id).loaded = some text) :
    (t.note id (.ofText text)).WellFormed := by
  by_cases hid : id < t.made.size
  · refine ⟨fun key id' h => ?_, fun id' table h => ?_⟩
    · obtain ⟨hlt, hq⟩ := hw.current key id' h
      rw [snapshot_note hid]
      refine ⟨by rwa [size_note], ?_⟩
      split
      · next e => exact e ▸ hq
      · exact hq
    · rw [snapshot_note hid] at h ⊢
      split at h
      · next e =>
        cases h
        exact ⟨text, by rw [if_pos e]; exact hl hid, rfl⟩
      · next hne =>
        rw [if_neg hne]
        exact hw.lines id' table h
  · rwa [note_of_not_lt hid]

/-- What comes of a table when lines are noted: it is as it was, but for lines. -/
structure Notes (t t' : SnapshotTable) : Prop where
  same : t'.withoutLines = t.withoutLines
  wellFormed : t.WellFormed → t'.WellFormed

theorem Notes.refl (t : SnapshotTable) : t.Notes t := ⟨rfl, fun h => h⟩

theorem Notes.trans {t'' : SnapshotTable} (h : t.Notes t') (h' : t'.Notes t'') : t.Notes t'' :=
  ⟨h'.same.trans h.same, fun hw => h'.wellFormed (h.wellFormed hw)⟩

/-- A text that was told is known. -/
theorem loaded_of_text {view : FileView} {id : Nat} {text : Text}
    (h : (t.text view id).1 = .ok text) (hid : id < (t.text view id).2.made.size) :
    ((t.text view id).2.snapshot id).loaded = some text := by
  cases hl : (t.snapshot id).loaded with
  | some known =>
      rw [text_of_loaded hl] at h ⊢
      cases h
      exact hl
  | none =>
      rw [text_of_unloaded hl] at h hid ⊢
      cases hr : view.read (t.snapshot id).path with
      | error f =>
          rw [hr] at h
          cases h
      | ok read =>
          rw [hr] at h hid
          cases h
          have hid : id < t.made.size := (t.size_load id (some text)) ▸ hid
          exact congrArg Snapshot.loaded ((snapshot_load hid _ id).trans (if_pos rfl))

/-- **A request for lines** is answered with those of the text, and notes them. -/
theorem WellFormed.lineTable (hw : t.WellFormed) (view : FileView) (id : Nat) :
    (t.lineTable view id).1 = (t.text view id).1.map .ofText ∧
      (t.text view id).2.Notes (t.lineTable view id).2 := by
  have hw' := hw.snd_text view id
  have hloaded : ∀ text, (t.text view id).1 = .ok text → id < (t.text view id).2.made.size →
      ((t.text view id).2.snapshot id).loaded = some text := fun _ => loaded_of_text
  unfold SnapshotTable.lineTable
  generalize t.text view id = read at hw' hloaded ⊢
  obtain ⟨answer, t'⟩ := read
  cases answer with
  | error f => exact ⟨rfl, .refl t'⟩
  | ok text =>
      have hl : id < t'.made.size → (t'.snapshot id).loaded = some text := hloaded text rfl
      simp only
      cases hlines : (t'.snapshot id).lines with
      | none => exact ⟨rfl, t'.withoutLines_note id _, fun hw => hw.note hl⟩
      | some table =>
          obtain ⟨text', hl', rfl⟩ := hw'.lines id table hlines
          cases (hl (lt_of_loaded hl')).symm.trans hl'
          exact ⟨rfl, .refl t'⟩

end SnapshotTable

end ImportLint
