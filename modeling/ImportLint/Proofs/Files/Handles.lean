import ImportLint.Proofs.Files.Lines
import ImportLint.Proofs.Files.Runs

/-!
# Files — snapshots that are held

Whoever has got a snapshot can ask about it at any time: after the table has dropped it, while
its file changes, and while its file fails.  A snapshot is told by its number.

* `SnapshotTable.Question`, `SnapshotTable.ask`: what can be asked about a snapshot.
* `SnapshotTable.Request`, `SnapshotTable.answer`: all that a table is asked.
* `Effect`, `answer_effect`: all that a request can do to a table.
* `Sound`: what holds at every moment of a run that begins with an empty table; `Sound.ask`: the
  size of a snapshot is told as if its text were read.
* `handles_keep`: what is known of a snapshot during such a run; `handles_reopened` is a run in
  which a snapshot is read, disposed of and got again.
-/

namespace ImportLint.SnapshotTable

/-! ### Requests -/

/-- What can be asked about a snapshot. -/
inductive Question where
  | text
  | length
  | isEmpty
  | part (start stop : Nat)
  | lines

/-- What a question is answered with. -/
inductive Told where
  | text (text : Text)
  | size (bytes : Nat)
  | isEmpty (yes : Bool)
  | lines (table : LineTable)

namespace Question

/-- The answer to a question, if the text is known. -/
def about (text : Text) : Question → Told
  | .text => .text text
  | .length => .size text.byteLength
  | .isEmpty => .isEmpty (text.byteLength == 0)
  | .part start stop => .text (text.slice start stop)
  | .lines => .lines (.ofText text)

/-- Whether a question needs the text; the others need only its size. -/
def needsText : Question → Bool
  | .length | .isEmpty => false
  | _ => true

end Question

/-- Puts a question about a snapshot. -/
def ask (t : SnapshotTable) (view : FileView) (id : Nat) :
    Question → Except LintError Told × SnapshotTable
  | .text => ((t.text view id).1.map .text, (t.text view id).2)
  | .length => ((t.length view id).map .size, t)
  | .isEmpty => ((t.length view id).map fun bytes => .isEmpty (bytes == 0), t)
  | .part start stop =>
    ((t.getText view id start stop).1.map .text, (t.getText view id start stop).2)
  | .lines => ((t.lineTable view id).1.map .lines, (t.lineTable view id).2)

/-- What a table of snapshots is asked. -/
inductive Request where
  | get (path : Path)
  | dispose (path : Path)
  | ask (id : Nat) (question : Question)

inductive Reply where
  | handle (id : Option Nat)
  | disposed (had : Bool)
  | told (what : Told)

def answer (t : SnapshotTable) (view : FileView) :
    Request → Except LintError Reply × SnapshotTable
  | .get path => ((t.get view path).1.map .handle, (t.get view path).2)
  | .dispose path => (.ok (.disposed (t.dispose path).1), (t.dispose path).2)
  | .ask id question => ((t.ask view id question).1.map .told, (t.ask view id question).2)

/-- Nothing comes of a request: it fails, or there is no snapshot. -/
def Refused : Except LintError Reply → Prop
  | .error _ | .ok (.handle none) | .ok (.disposed false) => True
  | _ => False

variable {t t' : SnapshotTable} {view : FileView} {id : Nat}

/-- A question that needs the text is answered from it. -/
theorem WellFormed.fst_ask (hw : t.WellFormed) (view : FileView) (id : Nat) {q : Question}
    (hq : q.needsText = true) : (t.ask view id q).1 = (t.text view id).1.map q.about := by
  cases q with
  | text => rfl
  | length => cases hq
  | isEmpty => cases hq
  | part start stop =>
      simp only [ask, getText]
      cases (t.text view id).1 <;> rfl
  | lines =>
      simp only [ask, (hw.lineTable view id).1]
      cases (t.text view id).1 <;> rfl

/-- It reads the text, and a question about lines notes them if it is answered. -/
theorem snd_ask (t : SnapshotTable) (view : FileView) (id : Nat) {q : Question}
    (hq : q.needsText = true) :
    (t.ask view id q).2 = (t.text view id).2 ∨
      q = .lines ∧ ∃ text, (t.text view id).1 = .ok text ∧
        (t.ask view id q).2 = (t.text view id).2.note id (.ofText text) := by
  cases q with
  | text => exact Or.inl rfl
  | length => cases hq
  | isEmpty => cases hq
  | part start stop => exact Or.inl rfl
  | lines =>
      simp only [ask, SnapshotTable.lineTable]
      generalize t.text view id = read
      obtain ⟨answer, t'⟩ := read
      cases answer with
      | error f => exact Or.inl rfl
      | ok text =>
          simp only
          cases (t'.snapshot id).lines with
          | some table => exact Or.inl rfl
          | none => exact Or.inr ⟨trivial, text, rfl, rfl⟩

theorem snd_ask_of_not_needsText (t : SnapshotTable) (view : FileView) (id : Nat) {q : Question}
    (hq : q.needsText = false) : (t.ask view id q).2 = t := by
  cases q <;> first | rfl | cases hq

/-! ### All that a request can do -/

theorem fst_text_of_unloaded (h : (t.snapshot id).loaded = none) :
    (t.text view id).1 =
      (view.read (t.snapshot id).path).mapError (.fileRead (t.snapshot id).path) := by
  rw [text_of_unloaded h]
  cases view.read (t.snapshot id).path <;> rfl

/-- The table without the snapshot of a path, whose text is forgotten. -/
def drop (t : SnapshotTable) (p : Path) (id : Nat) : SnapshotTable :=
  { t.load id none with current := t.current.erase p.normalize.components }

/-- What a request can do to a table: nothing; or it makes a snapshot, drops one, or reads one,
and it can note the lines of one after that. -/
inductive Effect (view : FileView) (t : SnapshotTable) (r : Request) : SnapshotTable → Prop where
  | nothing : Effect view t r t
  | enter {p : Path} (hr : r = .get p) (hnone : t.current.get? p.normalize.components = none)
      (hfile : view.fileExists p.normalize = .ok true) : Effect view t r (t.enter p)
  | drop {p : Path} {id : Nat} (hr : r = .dispose p)
      (hid : t.current.get? p.normalize.components = some id) : Effect view t r (t.drop p id)
  | read {id : Nat} {q : Question} {text : Text} (hr : r = .ask id q) (hq : q.needsText = true)
      (hnone : (t.snapshot id).loaded = none)
      (hread : view.read (t.snapshot id).path = .ok text) :
      Effect view t r (t.load id (some text))
  | note {t' : SnapshotTable} {id : Nat} {text : Text} (h : Effect view t r t')
      (hl : id < t'.made.size → (t'.snapshot id).loaded = some text) :
      Effect view t r (t'.note id (.ofText text))

/-- Reading a snapshot reads it if it has not been read. -/
theorem text_effect (t : SnapshotTable) (view : FileView) (id : Nat) {q : Question}
    (hq : q.needsText = true) : Effect view t (.ask id q) (t.text view id).2 := by
  cases hl : (t.snapshot id).loaded with
  | some text =>
      rw [text_of_loaded hl]
      exact .nothing
  | none =>
      rw [text_of_unloaded hl]
      cases hr : view.read (t.snapshot id).path with
      | error f => exact .nothing
      | ok text => exact .read rfl hq hl hr

/-- **All that a request can do.** -/
theorem answer_effect (t : SnapshotTable) (view : FileView) (r : Request) :
    Effect view t r (t.answer view r).2 := by
  cases r with
  | get p =>
      simp only [answer, SnapshotTable.get]
      cases hid : t.current.get? p.normalize.components with
      | some id => exact .nothing
      | none =>
          cases hp : view.fileExists p.normalize with
          | error e => exact .nothing
          | ok found =>
              cases found with
              | false => exact .nothing
              | true => exact .enter rfl hid hp
  | dispose p =>
      simp only [answer, SnapshotTable.dispose]
      cases hid : t.current.get? p.normalize.components with
      | none => exact .nothing
      | some id => exact .drop rfl hid
  | ask id q =>
      change Effect view t (.ask id q) (t.ask view id q).2
      cases hq : q.needsText with
      | false =>
          rw [snd_ask_of_not_needsText t view id hq]
          exact .nothing
      | true =>
          rcases t.snd_ask view id hq with h | ⟨-, text, htext, h⟩
          · rw [h]
            exact t.text_effect view id hq
          · rw [h]
            exact .note (t.text_effect view id hq) (loaded_of_text htext)

/-! ### What a request leaves as it was -/

theorem size_drop (t : SnapshotTable) (p : Path) (id : Nat) :
    (t.drop p id).made.size = t.made.size :=
  size_load t id none

/-- Reading and dropping change what is known of a text, but no path. -/
theorem path_load (t : SnapshotTable) {id' : Nat} (hid' : id' < t.made.size) (id : Nat)
    (text : Option Text) : ((t.load id text).snapshot id').path = (t.snapshot id').path := by
  by_cases h : id' = id
  · subst h
    simp [snapshot_load hid']
  · rw [snapshot_load_of_ne t h]

theorem Effect.size_le {r : Request} (h : Effect view t r t') : t.made.size ≤ t'.made.size := by
  induction h with
  | nothing => exact Nat.le_refl _
  | enter => simp [SnapshotTable.enter]
  | drop => exact Nat.le_of_eq (size_drop ..).symm
  | read => exact Nat.le_of_eq (size_load ..).symm
  | note _ _ ih => exact Nat.le_trans ih (Nat.le_of_eq (size_note ..).symm)

theorem Effect.path_eq {r : Request} (h : Effect view t r t') (hid : id < t.made.size) :
    (t'.snapshot id).path = (t.snapshot id).path := by
  induction h with
  | nothing => rfl
  | enter => rw [snapshot_enter, if_neg (Nat.ne_of_lt hid)]
  | drop => exact path_load t hid _ none
  | read => exact path_load t hid _ _
  | note _ _ ih => rw [path_note, ih]

theorem Effect.wellFormed {r : Request} (h : Effect view t r t') (hw : t.WellFormed) :
    t'.WellFormed := by
  induction h with
  | nothing => exact hw
  | @enter p => exact hw.enter p
  | @drop p id hr hid =>
      refine ⟨fun key id' h => ?_, (hw.load id none).lines⟩
      rw [SnapshotTable.drop, Table.get?_erase] at h
      split at h
      · cases h
      · exact (hw.load id none).current key id' h
  | @read id q text => exact hw.load id (some text)
  | note _ hl ih => exact ih.note hl

/-- A request that is refused changes nothing. -/
theorem WellFormed.answer_of_refused (hw : t.WellFormed) {r : Request}
    (h : Refused (t.answer view r).1) : (t.answer view r).2 = t := by
  cases r with
  | get p =>
      simp only [answer, SnapshotTable.get] at h ⊢
      cases hid : t.current.get? p.normalize.components with
      | some id => rfl
      | none =>
          cases hp : view.fileExists p.normalize with
          | error e => rfl
          | ok found =>
              cases found with
              | false => rfl
              | true => simp [hid, hp, Except.map, Refused] at h
  | dispose p =>
      simp only [answer, SnapshotTable.dispose] at h ⊢
      cases hid : t.current.get? p.normalize.components with
      | none => rfl
      | some id => simp [hid, Refused] at h
  | ask id q =>
      change (t.ask view id q).2 = t
      cases hq : q.needsText with
      | false => exact snd_ask_of_not_needsText t view id hq
      | true =>
          simp only [answer, hw.fst_ask view id hq] at h
          cases htext : (t.text view id).1 with
          | ok text => simp [htext, Except.map, Refused] at h
          | error f =>
              rcases t.snd_ask view id hq with hask | ⟨-, text, hread, -⟩
              · rw [hask, snd_text_of_error htext]
              · cases htext.symm.trans hread

/-! ### Runs -/

/-- A table of snapshots whose requests come while files change. -/
def handles : Machine SnapshotTable Request where
  step view t r := (t.answer view r).2

/-- The files and the snapshots at one moment. -/
abbrev Moment := Machine.State SnapshotTable

abbrev Event := Machine.Event Request

/-- Some spelling of a path is asked for, and a snapshot is got. -/
def Gives (p : Path) (id : Nat) (s : Moment) (e : Event) : Prop :=
  ∃ q : Path, q.normalize = p.normalize ∧ e = .call (.get q) ∧
    (s.memory.get s.tree.view q).1 = .ok (some id)

/-- Some spelling of a path is disposed of. -/
def Drops (p : Path) (e : Event) : Prop :=
  ∃ q : Path, q.normalize = p.normalize ∧ e = .call (.dispose q)

/-- A snapshot is disposed of while it is in the table. -/
def Forgets (id : Nat) (s : Moment) (e : Event) : Prop :=
  ∃ q : Path, e = .call (.dispose q) ∧
    s.memory.current.get? q.normalize.components = some id

/-- A question about a snapshot is answered from a text. -/
def Reads (id : Nat) (text : Text) (s : Moment) (e : Event) : Prop :=
  ∃ q : Question, q.needsText = true ∧ e = .call (.ask id q) ∧
    (s.memory.text s.tree.view id).1 = .ok text

/-- What holds of the files and the snapshots during a run: a snapshot is in the table for its
path, and its file is there, though it may fail. -/
structure Sound (s : Moment) : Prop where
  wellFormed : s.memory.WellFormed
  files : ∀ id, id < s.memory.made.size →
    (s.tree.files.get? (s.memory.snapshot id).path.components).isSome = true

variable {s : Moment} {e : Event}

theorem sound_new (tree : MemoryTree) : Sound ⟨tree, {}⟩ where
  wellFormed := wellFormed_empty
  files _ h := by cases h

theorem WellFormed.answer (hw : t.WellFormed) (view : FileView) (r : Request) :
    (t.answer view r).2.WellFormed :=
  (t.answer_effect view r).wellFormed hw

/-- A snapshot that has just been made is one of a file that is there. -/
theorem Effect.file_of_not_lt {tree : MemoryTree} {r : Request} (h : Effect tree.view t r t')
    (hold : ¬ id < t.made.size) (hid : id < t'.made.size) :
    (tree.files.get? (t'.snapshot id).path.components).isSome = true := by
  induction h with
  | nothing => exact absurd hid hold
  | @enter p hr hnone hfile =>
      have hid : id < t.made.size + 1 := by simpa [SnapshotTable.enter] using hid
      rw [snapshot_enter, if_pos (by omega)]
      rw [MemoryTree.fileExists_view] at hfile
      split at hfile
      · split at hfile <;> cases hfile
      · simpa using hfile
  | drop => exact absurd (by rwa [size_drop] at hid) hold
  | read => exact absurd (by rwa [size_load] at hid) hold
  | note _ _ ih =>
      rw [path_note]
      exact ih (by rwa [size_note] at hid)

theorem Sound.next (h : Sound s) (e : Event) : Sound (handles.next s e) := by
  cases e with
  | change c => exact ⟨h.wellFormed, fun id hid => s.tree.isSome_files_change c (h.files id hid)⟩
  | call r =>
      have heffect := s.memory.answer_effect s.tree.view r
      refine ⟨heffect.wellFormed h.wellFormed, fun id hid => ?_⟩
      change (s.tree.files.get?
        ((s.memory.answer s.tree.view r).2.snapshot id).path.components).isSome = true
      by_cases hold : id < s.memory.made.size
      · rw [heffect.path_eq hold]
        exact h.files id hold
      · exact heffect.file_of_not_lt hold hid

theorem size_le_next (s : Moment) (e : Event) :
    s.memory.made.size ≤ (handles.next s e).memory.made.size := by
  cases e with
  | change c => exact Nat.le_refl _
  | call r => exact (s.memory.answer_effect s.tree.view r).size_le

theorem path_next {id : Nat} (e : Event) (hid : id < s.memory.made.size) :
    ((handles.next s e).memory.snapshot id).path = (s.memory.snapshot id).path := by
  cases e with
  | change c => rfl
  | call r => exact (s.memory.answer_effect s.tree.view r).path_eq hid

theorem size_le_after (s : Moment) (run : List Event) :
    s.memory.made.size ≤ (handles.after s run).memory.made.size := by
  induction run generalizing s with
  | nil => exact Nat.le_refl _
  | cons e rest ih => exact Nat.le_trans (size_le_next s e) (ih _)

/-! ### One snapshot for each path -/

/-- A snapshot stays in the table until its path is disposed of. -/
theorem current_next {p : Path} (h : ¬ Drops p e) {id : Nat}
    (hid : s.memory.current.get? p.normalize.components = some id) :
    (handles.next s e).memory.current.get? p.normalize.components = some id := by
  cases e with
  | change c => exact hid
  | call r =>
      have heffect := s.memory.answer_effect s.tree.view r
      change (s.memory.answer s.tree.view r).2.current.get? p.normalize.components = some id
      generalize (s.memory.answer s.tree.view r).2 = t' at heffect ⊢
      induction heffect with
      | nothing => exact hid
      | enter _ hnone =>
          rw [SnapshotTable.enter, Table.get?_insert, if_neg]
          · exact hid
          · intro e
            rw [e, hnone] at hid
            cases hid
      | @drop q _ hr =>
          rw [drop, Table.get?_erase, if_neg]
          · exact hid
          · intro e
            exact h ⟨q, (Path.Same.eq_of_normalize e).symm, congrArg _ hr⟩
      | read => exact hid
      | note _ _ ih => exact ih

/-- A path whose snapshot is got has it in the table, or has a new one made. -/
theorem of_get {p : Path} {id : Nat} (h : (t.get view p).1 = .ok (some id)) :
    t.current.get? p.normalize.components = some id ∧ (t.get view p).2 = t ∨
      t.current.get? p.normalize.components = none ∧ id = t.made.size ∧
        (t.get view p).2 = t.enter p := by
  simp only [SnapshotTable.get] at h ⊢
  cases hid : t.current.get? p.normalize.components with
  | some id' =>
      simp only [hid] at h ⊢
      cases h
      exact Or.inl ⟨rfl, trivial⟩
  | none =>
      simp only [hid] at h ⊢
      cases hp : view.fileExists p.normalize with
      | error e => simp [hp] at h
      | ok found =>
          cases found with
          | false => simp [hp] at h
          | true =>
              simp only [hp] at h ⊢
              cases h
              exact Or.inr ⟨trivial, rfl, rfl⟩

/-- **What getting a snapshot does**: it is in the table then, and if it was not before, it is
the next one to be made, and has not been read. -/
theorem Gives.spec {p : Path} {id : Nat} (hs : Sound s) (h : Gives p id s e) :
    let next := handles.next s e
    id < next.memory.made.size ∧ next.memory.current.get? p.normalize.components = some id ∧
      (s.memory.current.get? p.normalize.components = none →
        id = s.memory.made.size ∧ next.memory.snapshot id = { path := p.normalize }) := by
  obtain ⟨q, hq, rfl, hg⟩ := h
  change _ < (s.memory.get s.tree.view q).2.made.size ∧
    (s.memory.get s.tree.view q).2.current.get? _ = _ ∧
    (_ → _ ∧ (s.memory.get s.tree.view q).2.snapshot id = _)
  rw [← hq]
  rcases of_get hg with ⟨hid, ht⟩ | ⟨hid, rfl, ht⟩
  · rw [ht]
    refine ⟨(hs.wellFormed.current _ _ hid).1, hid, fun hnone => ?_⟩
    rw [hid] at hnone
    cases hnone
  · rw [ht]
    refine ⟨?_, ?_, fun _ => ⟨rfl, ?_⟩⟩
    · simp [SnapshotTable.enter]
    · simp [SnapshotTable.enter, Table.get?_insert]
    · rw [snapshot_enter, if_pos rfl]

/-- A path that is not in the table gets there only by being asked for. -/
theorem current_next_of_none {p : Path} (h : ∀ id, ¬ Gives p id s e)
    (hp : s.memory.current.get? p.normalize.components = none) :
    (handles.next s e).memory.current.get? p.normalize.components = none := by
  cases e with
  | change c => exact hp
  | call r =>
      have heffect := s.memory.answer_effect s.tree.view r
      change (s.memory.answer s.tree.view r).2.current.get? p.normalize.components = none
      generalize (s.memory.answer s.tree.view r).2 = t' at heffect ⊢
      induction heffect with
      | nothing => exact hp
      | @enter q hr hnone hfile =>
          rw [SnapshotTable.enter, Table.get?_insert, if_neg]
          · exact hp
          · intro e
            have hqp : q.normalize = p.normalize := (Path.Same.eq_of_normalize e).symm
            refine h s.memory.made.size ⟨q, hqp, congrArg _ hr, ?_⟩
            simp [SnapshotTable.get, hnone, hfile]
      | drop =>
          rw [drop, Table.get?_erase]
          split
          · rfl
          · exact hp
      | read => exact hp
      | note _ _ ih => exact ih

theorem Drops.current_next {p : Path} (h : Drops p e) :
    (handles.next s e).memory.current.get? p.normalize.components = none := by
  obtain ⟨q, hq, rfl⟩ := h
  change (s.memory.dispose q).2.current.get? p.normalize.components = none
  rw [← hq]
  simp only [SnapshotTable.dispose]
  cases hid : s.memory.current.get? q.normalize.components with
  | none => exact hid
  | some id => simp [Table.get?_erase]

/-- The numbers that a run gives are those of the snapshots made by then. -/
theorem always_not_gives (hs : Sound s) (run : List Event) {id : Nat}
    (hid : (handles.after s run).memory.made.size ≤ id) :
    handles.Always (fun s e => ∀ p, ¬ Gives p id s e) s run := by
  induction run generalizing s with
  | nil => trivial
  | cons e rest ih =>
      refine ⟨fun p h => ?_, ih (hs.next e) hid⟩
      have hlt := (h.spec hs).1
      have hle : (handles.next s e).memory.made.size ≤ id :=
        Nat.le_trans (size_le_after _ rest) hid
      omega

/-! ### One text for each snapshot -/

/-- A text that has been read is kept until the snapshot is forgotten. -/
theorem loaded_next {id : Nat} {text : Text} (h : ¬ Forgets id s e)
    (hid : id < s.memory.made.size) (hl : (s.memory.snapshot id).loaded = some text) :
    ((handles.next s e).memory.snapshot id).loaded = some text := by
  cases e with
  | change c => exact hl
  | call r =>
      have heffect := s.memory.answer_effect s.tree.view r
      change ((s.memory.answer s.tree.view r).2.snapshot id).loaded = some text
      generalize (s.memory.answer s.tree.view r).2 = t' at heffect ⊢
      induction heffect with
      | nothing => exact hl
      | enter =>
          rw [snapshot_enter, if_neg (Nat.ne_of_lt hid)]
          exact hl
      | @drop q id' hr hq =>
          have hne : id ≠ id' := fun e => h ⟨q, congrArg _ hr, e ▸ hq⟩
          exact (congrArg Snapshot.loaded (snapshot_load_of_ne _ hne none)).trans hl
      | @read id' _ _ _ _ hnone =>
          have hne : id ≠ id' := by
            intro e
            rw [← e, hl] at hnone
            cases hnone
          rw [snapshot_load_of_ne _ hne]
          exact hl
      | note _ _ ih => rw [loaded_note, ih]

/-- A snapshot that has not been read is read by a question that is answered. -/
theorem unloaded_next {id : Nat} (h : ∀ text, ¬ Reads id text s e) (hid : id < s.memory.made.size)
    (hl : (s.memory.snapshot id).loaded = none) :
    ((handles.next s e).memory.snapshot id).loaded = none := by
  cases e with
  | change c => exact hl
  | call r =>
      have heffect := s.memory.answer_effect s.tree.view r
      change ((s.memory.answer s.tree.view r).2.snapshot id).loaded = none
      generalize (s.memory.answer s.tree.view r).2 = t' at heffect ⊢
      induction heffect with
      | nothing => exact hl
      | enter =>
          rw [snapshot_enter, if_neg (Nat.ne_of_lt hid)]
          exact hl
      | @drop q id' =>
          change ((s.memory.load id' none).snapshot id).loaded = none
          by_cases hne : id = id'
          · subst hne
            rw [snapshot_load hid, if_pos rfl]
          · rw [snapshot_load_of_ne _ hne]
            exact hl
      | @read id' q text hr hq hnone hread =>
          have hne : id ≠ id' := by
            rintro rfl
            refine h text ⟨q, hq, congrArg _ hr, ?_⟩
            rw [text_of_unloaded hnone, hread]
          rw [snapshot_load_of_ne _ hne]
          exact hl
      | note _ _ ih => rw [loaded_note, ih]

/-- **Questions are answered alike**: about the text if it is known, else about what reading the
file gives at the moment, or with the failure of that. -/
theorem Sound.ask (hs : Sound s) {id : Nat} (hid : id < s.memory.made.size) (q : Question) :
    (s.memory.ask s.tree.view id q).1 = (s.memory.text s.tree.view id).1.map q.about := by
  have hlength : s.memory.length s.tree.view id =
      (s.memory.text s.tree.view id).1.map Text.byteLength := by
    cases hl : (s.memory.snapshot id).loaded with
    | some text => simp [length, hl, text_of_loaded hl]; rfl
    | none =>
        simp only [length, hl, text_of_unloaded hl,
          MemoryTree.stat_of_isSome (hs.files id hid)]
        cases s.tree.view.read (s.memory.snapshot id).path <;> rfl
  cases hq : q.needsText with
  | true => exact hs.wellFormed.fst_ask s.tree.view id hq
  | false =>
      cases q with
      | length | isEmpty =>
          simp only [SnapshotTable.ask, hlength]
          cases (s.memory.text s.tree.view id).1 <;> rfl
      | text | part | lines => cases hq

/-- A text that is read is what the file holds, or was known before. -/
theorem Reads.spec {id : Nat} {text : Text} (h : Reads id text s e)
    (hid : id < s.memory.made.size) :
    ((handles.next s e).memory.snapshot id).loaded = some text ∧
      ((s.memory.snapshot id).loaded = none →
        s.tree.view.read (s.memory.snapshot id).path = .ok text) := by
  obtain ⟨q, hq, rfl, ht⟩ := h
  have hsize := (s.memory.text_effect s.tree.view id hq).size_le
  have hread := loaded_of_text ht (Nat.lt_of_lt_of_le hid hsize)
  refine ⟨?_, fun hnone => ?_⟩
  · change ((s.memory.ask s.tree.view id q).2.snapshot id).loaded = some text
    rcases s.memory.snd_ask s.tree.view id hq with h | ⟨-, _, -, h⟩
    · rwa [h]
    · rwa [h, loaded_note]
  · rw [fst_text_of_unloaded hnone] at ht
    cases hr : s.tree.view.read (s.memory.snapshot id).path with
    | error f =>
        rw [hr] at ht
        cases ht
    | ok read =>
        rw [hr] at ht
        cases ht
        rfl

/-! ### Runs from any moment -/

theorem Sound.after (hs : Sound s) (run : List Event) : Sound (handles.after s run) :=
  Machine.invariant_after_of_next (fun _ e h => h.next e) hs run

/-- A snapshot that is got is got again, by any spelling, until its path is disposed of. -/
theorem Gives.again {p : Path} {id : Nat} (hs : Sound s) (h : Gives p id s e)
    {later : List Event} (hlater : ∀ e' ∈ later, ¬ Drops p e') {q : Path}
    (hq : q.normalize = p.normalize) :
    let s' := handles.after s (e :: later)
    (s'.memory.get s'.tree.view q).1 = .ok (some id) := by
  have hcurrent : (handles.after (handles.next s e) later).memory.current.get?
      p.normalize.components = some id :=
    Machine.invariant_after
      (I := fun s : Moment => s.memory.current.get? p.normalize.components = some id)
      (P := fun _ e' => ¬ Drops p e') (fun _ _ hi hn => current_next hn hi) (h.spec hs).2.1
      (Machine.always_of_forall hlater _)
  intro s'
  simp only [SnapshotTable.get, hq]
  rw [show s'.memory.current.get? p.normalize.components = some id from hcurrent]

/-- After a disposal of its path a snapshot is made anew. -/
theorem Drops.fresh {p : Path} (h : Drops p e) {between : List Event}
    (hbetween : handles.Always (fun s e' => ∀ id, ¬ Gives p id s e') (handles.next s e) between)
    (hs : Sound s) {id : Nat} {e' : Event}
    (hgives : Gives p id (handles.after s (e :: between)) e') :
    id = (handles.after s (e :: between)).memory.made.size ∧
      (handles.next (handles.after s (e :: between)) e').memory.snapshot id =
        { path := p.normalize } := by
  have hnone : (handles.after (handles.next s e) between).memory.current.get?
      p.normalize.components = none :=
    Machine.invariant_after
      (I := fun s : Moment => s.memory.current.get? p.normalize.components = none)
      (fun _ _ hi hn => current_next_of_none hn hi) h.current_next hbetween
  exact (hgives.spec (hs.after (e :: between))).2.2 hnone

/-- A snapshot that has not been read is first read from its file. -/
theorem read_of_unread {id : Nat} {p : Path} (hid : id < s.memory.made.size)
    (hnew : s.memory.snapshot id = { path := p }) {later : List Event}
    (hlater : handles.Always (fun s e' => ∀ text, ¬ Reads id text s e') s later) {text : Text}
    {e : Event} (hreads : Reads id text (handles.after s later) e) :
    (handles.after s later).tree.view.read p = .ok text := by
  obtain ⟨hlt, hpath, hunread⟩ : id < (handles.after s later).memory.made.size ∧
      ((handles.after s later).memory.snapshot id).path = p ∧
      ((handles.after s later).memory.snapshot id).loaded = none := by
    refine Machine.invariant_after
      (I := fun s : Moment => id < s.memory.made.size ∧ (s.memory.snapshot id).path = p ∧
        (s.memory.snapshot id).loaded = none)
      (fun s e ⟨hlt, hpath, hold⟩ hn => ?_) ⟨hid, by rw [hnew], by rw [hnew]⟩ hlater
    exact ⟨Nat.lt_of_lt_of_le hlt (size_le_next s e), (path_next e hlt).trans hpath,
      unloaded_next hn hlt hold⟩
  exact hpath ▸ (hreads.spec hlt).2 hunread

/-- A text that is read is what all questions are about, until the snapshot is forgotten. -/
theorem Reads.again {id : Nat} {text : Text} (hs : Sound s) (hid : id < s.memory.made.size)
    (h : Reads id text s e) {later : List Event}
    (hlater : handles.Always (fun s e' => ¬ Forgets id s e') (handles.next s e) later)
    (q : Question) :
    let s' := handles.after s (e :: later)
    (s'.memory.ask s'.tree.view id q).1 = .ok (q.about text) := by
  intro s'
  have hstill : id < s'.memory.made.size ∧
      (s'.memory.snapshot id).loaded = some text :=
    Machine.invariant_after
      (I := fun s : Moment => id < s.memory.made.size ∧
        (s.memory.snapshot id).loaded = some text)
      (fun s e ⟨hlt, hold⟩ hn =>
        ⟨Nat.lt_of_lt_of_le hlt (size_le_next s e), loaded_next hn hlt hold⟩)
      ⟨Nat.lt_of_lt_of_le hid (size_le_next s e), (h.spec hid).1⟩ hlater
  have hsound : Sound s' := hs.after (e :: later)
  rw [hsound.ask hstill.1, text_of_loaded hstill.2]
  rfl

/-! ### The main result -/

/-- **What is known of snapshots that are held.**  Let a table of snapshots be asked anything
while files are written, fail, and can be read again.  At any moment:

* a snapshot in the table has a normalized path, under which it is in the table;
* a snapshot that is got has been made, and every spelling of its path gives it until the path is
  disposed of;
* the first snapshot got for a path after a disposal is one that was never got before, and the
  first text read from it is what the file holds then;
* once a text has been read from a snapshot, every question is answered about that text, until
  the snapshot is disposed of while it is in the table;
* a question about the size of a snapshot changes nothing and is answered as if the text were
  read; if the text is not known, that is what the file holds at that moment, or the failure;
* the lines that a snapshot keeps are those of the text that it keeps;
* a request that is refused changes nothing. -/
theorem handles_keep (tree : MemoryTree) (before : List Event) :
    let start : Moment := ⟨tree, {}⟩
    let now := handles.after start before
    (∀ key id, now.memory.current.get? key = some id →
      key = (now.memory.snapshot id).path.components ∧
        (now.memory.snapshot id).path.normalize = (now.memory.snapshot id).path) ∧
    (∀ p id e, Gives p id now e → ∀ later,
      let s := handles.after now (e :: later)
      id < s.memory.made.size ∧
        ((∀ e' ∈ later, ¬ Drops p e') → ∀ q : Path, q.normalize = p.normalize →
          (s.memory.get s.tree.view q).1 = .ok (some id))) ∧
    (∀ p e, Drops p e → ∀ between,
      handles.Always (fun s e' => ∀ id, ¬ Gives p id s e') (handles.next now e) between →
      ∀ id e', Gives p id (handles.after now (e :: between)) e' →
        handles.Always (fun s e' => ∀ q, ¬ Gives q id s e') start (before ++ e :: between) ∧
        let got := handles.next (handles.after now (e :: between)) e'
        ∀ later, handles.Always (fun s e' => ∀ text, ¬ Reads id text s e') got later →
          ∀ text e'', Reads id text (handles.after got later) e'' →
            (handles.after got later).tree.view.read p.normalize = .ok text) ∧
    (∀ id text e, id < now.memory.made.size → Reads id text now e → ∀ later,
      handles.Always (fun s e' => ¬ Forgets id s e') (handles.next now e) later →
      let s := handles.after now (e :: later)
      ∀ q, (s.memory.ask s.tree.view id q).1 = .ok (q.about text)) ∧
    (∀ id q, id < now.memory.made.size →
      (now.memory.ask now.tree.view id q).1 =
          (now.memory.text now.tree.view id).1.map q.about ∧
        (q.needsText = false → (now.memory.ask now.tree.view id q).2 = now.memory) ∧
        ((now.memory.snapshot id).loaded = none →
          let path := (now.memory.snapshot id).path
          (now.memory.text now.tree.view id).1 =
            (now.tree.view.read path).mapError (LintError.fileRead path))) ∧
    (∀ id table, (now.memory.snapshot id).lines = some table →
      ∃ text, (now.memory.snapshot id).loaded = some text ∧ table = .ofText text) ∧
    ∀ r, Refused (now.memory.answer now.tree.view r).1 →
      (now.memory.answer now.tree.view r).2 = now.memory := by
  intro start now
  have hnow : Sound now := (sound_new tree).after before
  refine ⟨fun key id hid => ?_, fun p id e h later => ⟨?_, fun hlater q => ?_⟩,
    fun p e h between hbetween id e' hgives => ⟨?_, ?_⟩,
    fun id text e hid h later => h.again hnow hid, fun id q hid => ⟨?_, ?_, ?_⟩,
    hnow.wellFormed.lines, fun r => hnow.wellFormed.answer_of_refused⟩
  · obtain ⟨-, p, hp, rfl⟩ := hnow.wellFormed.current key id hid
    rw [hp]
    exact ⟨rfl, Path.normalize_normalize p⟩
  · exact Nat.lt_of_lt_of_le (h.spec hnow).1 (size_le_after _ later)
  · exact h.again hnow hlater
  · -- the new snapshot has the next number
    have hid := (h.fresh hbetween hnow hgives).1
    refine always_not_gives (sound_new tree) (before ++ e :: between) ?_
    rw [Machine.after_append]
    exact Nat.le_of_eq hid.symm
  · intro got later hlater text e'' hreads
    have hgot : id < got.memory.made.size := (hgives.spec (hnow.after (e :: between))).1
    exact read_of_unread hgot (h.fresh hbetween hnow hgives).2 hlater hreads
  · exact hnow.ask hid q
  · exact snd_ask_of_not_needsText _ _ _
  · exact fst_text_of_unloaded

/-- A file that is read through its first snapshot. -/
def reading : Moment := ⟨.ofFiles [(.ofString "/p/a.ts", "a".toList)], {}⟩

/-- What is asked of that snapshot. -/
def asking : List Event := [.call (.get (.ofString "/p/a.ts")), .call (.ask 0 .lines)]

/-- The snapshot is disposed of, under another spelling of its path, and the file is written. -/
def dropping : Event := .call (.dispose (.ofString "/p/./b/../a.ts"))

def writing : List Event := [.change (.write (.ofString "/p/a.ts") "b\nc".toList)]

/-- The file is got again. -/
def reopened : Moment :=
  handles.next (handles.after (handles.after reading asking) (dropping :: writing))
    (.call (.get (.ofString "/p/a.ts")))

/-- A snapshot is got, read and disposed of; its path is got again, and the new snapshot is read
from the file as it is then. -/
theorem handles_reopened :
    (Gives (.ofString "/p/a.ts") 0 reading (.call (.get (.ofString "/p/a.ts"))) ∧
        ((handles.after reading asking).memory.snapshot 0).lines = some (.ofText "a".toList)) ∧
      (Drops (.ofString "/p/a.ts") dropping ∧
        handles.Always (fun s e => ∀ id, ¬ Gives (.ofString "/p/a.ts") id s e)
          (handles.next (handles.after reading asking) dropping) writing ∧
        Gives (.ofString "/p/a.ts") 1
          (handles.after (handles.after reading asking) (dropping :: writing))
          (.call (.get (.ofString "/p/a.ts"))) ∧
        Reads 1 "b\nc".toList reopened (.call (.ask 1 .text))) ∧
      (reopened.memory.snapshot 0).loaded = none ∧
      reopened.tree.view.read (Path.ofString "/p/a.ts").normalize = .ok "b\nc".toList := by
  have hgives : Gives (.ofString "/p/a.ts") 0 reading (.call (.get (.ofString "/p/a.ts"))) :=
    ⟨_, rfl, rfl, rfl⟩
  have hdrops : Drops (.ofString "/p/a.ts") dropping := ⟨_, by decide, rfl⟩
  have hnone : handles.Always (fun s e => ∀ id, ¬ Gives (.ofString "/p/a.ts") id s e)
      (handles.next (handles.after reading asking) dropping) writing :=
    ⟨fun id ⟨_, _, h, _⟩ => (nomatch h), trivial⟩
  have hagain : Gives (.ofString "/p/a.ts") 1
      (handles.after (handles.after reading asking) (dropping :: writing))
      (.call (.get (.ofString "/p/a.ts"))) := ⟨_, rfl, rfl, rfl⟩
  have hreads : Reads 1 "b\nc".toList reopened (.call (.ask 1 .text)) := ⟨.text, rfl, rfl, rfl⟩
  obtain ⟨-, -, hfresh, -⟩ := handles_keep reading.tree asking
  have hread := (hfresh _ dropping hdrops writing hnone 1 _ hagain).2 [] trivial _ _ hreads
  exact ⟨⟨hgives, rfl⟩, ⟨hdrops, hnone, hagain, hreads⟩, rfl, hread⟩

end ImportLint.SnapshotTable
