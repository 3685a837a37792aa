import ImportLint.Files.Memory

/-!
# Files — runs while files change

Something that remembers what it has seen of files is called again and again, and between two
calls files are written, begin to fail, or can be read again.

* `MemoryTree.fileExists_view`, `stat_of_isSome`, `isDirectory_of_prefix`: what a tree shows, told
  by its tables.
* `MemoryTree.Change`: what can happen to the files of a tree.
* `Machine`: something that remembers, told by what a call makes of it.
* `Machine.after`: the files and the memory after a run of calls and changes.
* `Machine.invariant_after`: what every event of a run keeps, the run keeps.
-/

namespace ImportLint

namespace MemoryTree

/-! ### What a tree shows -/

/-- A path that fails is absent or an error, as its failure says; any other is a file if the tree
has it. -/
theorem fileExists_view (t : MemoryTree) (p : Path) :
    t.view.fileExists p =
      match t.failures.get? p.components with
      | some kind =>
        if kind.isAbsence then .ok false else .error (.stat p ⟨kind, p.toString⟩)
      | none => .ok (t.files.get? p.components).isSome := by
  unfold FileView.fileExists
  rw [show t.view.stat p = t.stat p from rfl, stat, failure?]
  cases t.failures.get? p.components with
  | some kind => rfl
  | none =>
      simp only [Option.map_none]
      cases t.files.get? p.components with
      | some content => rfl
      | none =>
          cases t.files.keys.any fun file => p.components.isPrefixOf file with
          | true => rfl
          | false => rfl

/-- What stands at the path of a file is told by what reading the file gives. -/
theorem stat_of_isSome {t : MemoryTree} {p : Path}
    (h : (t.files.get? p.components).isSome = true) :
    t.view.stat p = (t.view.read p).map fun content => ⟨content.byteLength, true, false⟩ := by
  obtain ⟨content, hc⟩ := Option.isSome_iff_exists.mp h
  change t.stat p = (t.read p).map _
  unfold stat read
  rw [hc]
  cases t.failure? p <;> rfl

/-- A file that does not fail is seen as a file. -/
theorem isFile_of_get? {t : MemoryTree} {p : Path} (hf : t.failures.get? p.components = none)
    {content : Text} (h : t.files.get? p.components = some content) : t.view.isFile p = true := by
  have hfailure : t.failure? p = none := by
    rw [failure?, hf]
    rfl
  have hstat : t.view.stat p = .ok ⟨content.byteLength, true, false⟩ := by
    change t.stat p = _
    simp only [stat, hfailure, h]
  rw [FileView.isFile, hstat]

/-- What is above a file is seen as a directory. -/
theorem isDirectory_of_prefix {t : MemoryTree} {p : Path}
    (hf : t.failures.get? p.components = none) (h : t.files.get? p.components = none)
    {file : List Component} (hfile : file ∈ t.files.keys) (hp : p.components <+: file) :
    t.view.isDirectory p = true := by
  have hfailure : t.failure? p = none := by
    rw [failure?, hf]
    rfl
  have hbelow : (t.files.keys.any fun file => p.components.isPrefixOf file) = true :=
    List.any_eq_true.mpr ⟨file, hfile, List.isPrefixOf_iff_prefix.mpr hp⟩
  have hstat : t.view.stat p = .ok ⟨0, false, true⟩ := by
    change t.stat p = _
    simp only [stat, hfailure, h, hbelow, if_true]
  rw [FileView.isDirectory, hstat]

/-! ### Changes -/

/-- What can happen to the files of a tree. -/
inductive Change where
  | write (path : Path) (content : Text)
  | fail (path : Path) (kind : IoKind)
  | clear (path : Path)

/-- The tree after a change. -/
def change (t : MemoryTree) : Change → MemoryTree
  | .write path content => t.write path content
  | .fail path kind => t.fail path kind
  | .clear path => t.clearFailure path

/-- A file can be overwritten, but it is not removed. -/
theorem isSome_files_change (t : MemoryTree) (c : Change) {key : List Component}
    (h : (t.files.get? key).isSome = true) : ((t.change c).files.get? key).isSome = true := by
  cases c with
  | write path content =>
      change ((t.files.insert path.components content).get? key).isSome = true
      rw [Table.get?_insert]
      split
      · rfl
      · exact h
  | fail path kind => exact h
  | clear path => exact h

end MemoryTree

/-- Something that remembers: what a call makes of its memory, while the files are as a view shows
them. -/
structure Machine (α κ : Type) where
  step : FileView → α → κ → α

namespace Machine

/-- The files at one moment, and what is remembered then. -/
structure State (α : Type) where
  tree : MemoryTree
  memory : α

/-- What happens in a run. -/
inductive Event (κ : Type) where
  | call (c : κ)
  | change (c : MemoryTree.Change)

variable {α κ : Type} (m : Machine α κ)

def next (s : State α) : Event κ → State α
  | .call c => { s with memory := m.step s.tree.view s.memory c }
  | .change c => { s with tree := s.tree.change c }

/-- The files and the memory after some events. -/
def after (s : State α) (run : List (Event κ)) : State α := run.foldl m.next s

/-- Each event of a run has a property, given what it finds. -/
def Always (P : State α → Event κ → Prop) : State α → List (Event κ) → Prop
  | _, [] => True
  | s, e :: rest => P s e ∧ Always P (m.next s e) rest

variable {m}

theorem after_append (s : State α) (run run' : List (Event κ)) :
    m.after s (run ++ run') = m.after (m.after s run) run' :=
  List.foldl_append

theorem always_of_forall {P : Event κ → Prop} {run : List (Event κ)} (h : ∀ e ∈ run, P e)
    (s : State α) : m.Always (fun _ => P) s run := by
  induction run generalizing s with
  | nil => trivial
  | cons e rest ih =>
      exact ⟨h e List.mem_cons_self, ih (fun e he => h e (List.mem_cons_of_mem _ he)) _⟩

/-- **What every event keeps, a run keeps.** -/
theorem invariant_after {I : State α → Prop} {P : State α → Event κ → Prop}
    (hnext : ∀ s e, I s → P s e → I (m.next s e)) {s : State α} (hs : I s)
    {run : List (Event κ)} (hrun : m.Always P s run) : I (m.after s run) := by
  induction run generalizing s with
  | nil => exact hs
  | cons e rest ih => exact ih (hnext s e hs hrun.1) hrun.2

/-- The same for what all events keep. -/
theorem invariant_after_of_next {I : State α → Prop} (hnext : ∀ s e, I s → I (m.next s e))
    {s : State α} (hs : I s) (run : List (Event κ)) : I (m.after s run) :=
  invariant_after (P := fun _ _ => True) (fun s e h _ => hnext s e h) hs
    (always_of_forall (fun _ _ => trivial) s)

end Machine

end ImportLint
