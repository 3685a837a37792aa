import ImportLint.Files.Disk
import ImportLint.Files.Memory
import ImportLint.Package.Manifest
import ImportLint.Proofs.Path.Components

/-!
# Files — one file, many spellings

A directory can be spelled in many ways.  A file system is coherent when the text of a file in
a directory does not depend on the spelling.  Only then can what was read under one spelling
stand for what would be read under another.

* `FileView.Coherent`: the property.
* `MemoryTree.coherent`: trees in memory have it, whatever they hold and whatever fails.
* `Disk.coherent`: so have disks with any links, seen from any working directory.
* `FileView.Coherent.load`: the manifest of a directory does not depend on the spelling.
-/

namespace ImportLint

open ImportLint.Path (isIdle segments IsNamed)

/-- The text of a file in a directory does not depend on how the directory is spelled. -/
def FileView.Coherent (v : FileView) : Prop :=
  ∀ (dir dir' : Path) (name : Text), dir.Same dir' → IsNamed (.name name) →
    (v.read (dir.join ⟨name⟩)).toOption = (v.read (dir'.join ⟨name⟩)).toOption

theorem FileView.Coherent.load {v : FileView} (h : v.Coherent) {dir dir' : Path}
    (hs : dir.Same dir') : Manifest.load v dir = Manifest.load v dir' := by
  have hr := h dir dir' Manifest.fileName hs (by decide)
  unfold Manifest.load
  cases e : v.read (dir.join ⟨Manifest.fileName⟩) with
  | error f =>
      cases e' : v.read (dir'.join ⟨Manifest.fileName⟩) with
      | error f' => rfl
      | ok text' => rw [e, e'] at hr; cases hr
  | ok text =>
      cases e' : v.read (dir'.join ⟨Manifest.fileName⟩) with
      | error f' => rw [e, e'] at hr; cases hr
      | ok text' => rw [e, e'] at hr; cases hr; rfl

/-! ### In memory -/

theorem MemoryTree.read_toOption (t : MemoryTree) (p : Path) :
    (t.read p).toOption =
      match t.failures.get? p.components with
      | some _ => none
      | none => t.files.get? p.components := by
  unfold read failure?
  cases t.failures.get? p.components with
  | some _ => rfl
  | none =>
      cases t.files.get? p.components with
      | some _ => rfl
      | none => rfl

/-- **Trees in memory are coherent**: they are asked by components. -/
theorem MemoryTree.coherent (t : MemoryTree) : t.view.Coherent := by
  intro dir dir' name hs _
  have hc : (dir.join ⟨name⟩).components = (dir'.join ⟨name⟩).components := hs.join ⟨name⟩
  change (t.read _).toOption = (t.read _).toOption
  rw [read_toOption, read_toOption, hc]

/-! ### On disk -/

namespace Disk

/-- The segments that lead anywhere. -/
def busy (todo : List Text) : List Text := todo.filter fun s => !isIdle s

/-- Does not end with an idle segment. -/
def EndsBusy (todo : List Text) : Prop := ∀ s, todo.getLast? = some s → isIdle s = false

theorem busy_cons_of_idle {s : Text} (h : isIdle s = true) (todo : List Text) :
    busy (s :: todo) = busy todo :=
  List.filter_cons_of_neg (by simp [h])

theorem busy_cons_of_busy {s : Text} (h : isIdle s = false) (todo : List Text) :
    busy (s :: todo) = s :: busy todo :=
  List.filter_cons_of_pos (by simp [h])

theorem busy_append (a b : List Text) : busy (a ++ b) = busy a ++ busy b := List.filter_append ..

theorem busy_busy (todo : List Text) : busy (busy todo) = busy todo := by
  simp [busy]

theorem EndsBusy.tail {s : Text} {todo : List Text} (h : EndsBusy (s :: todo)) :
    EndsBusy todo := by
  intro u hu
  exact h u (by rw [List.getLast?_cons, hu]; rfl)

theorem EndsBusy.append {a b : List Text} (hb : b ≠ []) (h : EndsBusy b) : EndsBusy (a ++ b) := by
  intro s hs
  obtain ⟨init, t, rfl⟩ := (List.eq_nil_or_concat b).resolve_left hb
  exact h s (by simpa using hs)

theorem EndsBusy.busy_ne_nil {todo : List Text} (h : EndsBusy todo) (hne : todo ≠ []) :
    busy todo ≠ [] := by
  obtain ⟨init, s, rfl⟩ := (List.eq_nil_or_concat todo).resolve_left hne
  have hs : isIdle s = false := h s (by simp)
  rw [List.concat_eq_append, busy_append, busy_cons_of_busy hs]
  exact List.append_ne_nil_of_right_ne_nil _ (List.cons_ne_nil _ _)

theorem endsBusy_busy (todo : List Text) : EndsBusy (busy todo) := by
  intro s hs
  have := (List.mem_filter.mp (List.mem_of_getLast? hs)).2
  simpa using this

/-- **Idle segments before a busy one do not matter** to where a walk leads. -/
theorem follow_busy (d : Disk) (links : Nat) (place todo : List Text) (h : EndsBusy todo) :
    d.follow links place todo = d.follow links place (busy todo) := by
  induction links using Nat.strongRecOn generalizing place todo with
  | ind links ihLinks =>
    induction todo generalizing place with
    | nil => rfl
    | cons s todo ih =>
      by_cases hs : isIdle s = true
      · have hne : todo ≠ [] := by
          rintro rfl
          exact absurd (h s rfl) (by simp [hs])
        rw [busy_cons_of_idle hs, ← ih place h.tail]
        obtain ⟨t, ts, rfl⟩ := List.exists_cons_of_ne_nil hne
        have hidle : s = [] ∨ s = ['.'] := by simpa [isIdle] using hs
        rw [follow]
        by_cases hp : d.node? place = some .directory
        · simp [hp, hidle]
        · rw [follow]
          simp [hp]
      · rw [Bool.not_eq_true] at hs
        rw [busy_cons_of_busy hs, follow, follow]
        have hidle : ¬ (s = [] ∨ s = ['.']) := by
          simpa [isIdle, ← Bool.not_eq_true] using hs
        rw [if_neg hidle, if_neg hidle, ← ih place.dropLast h.tail, ← ih (place ++ [s]) h.tail]
        -- only a link is left, which spends one of `links`
        cases d.node? (place ++ [s]) with
        | none => rfl
        | some node =>
          cases node with
          | file content => rfl
          | directory => rfl
          | link target =>
            cases links with
            | zero => rfl
            | succ links =>
              by_cases hne : todo = []
              · subst hne; rfl
              · have hb := h.tail.busy_ne_nil hne
                simp only
                rw [ihLinks links (Nat.lt_succ_self links) _ _ (EndsBusy.append hne h.tail),
                  ihLinks links (Nat.lt_succ_self links) _ _
                    (EndsBusy.append hb (endsBusy_busy todo)),
                  busy_append, busy_append, busy_busy]

theorem follow_congr (d : Disk) (links : Nat) (place : List Text) {todo todo' : List Text}
    (h : EndsBusy todo) (h' : EndsBusy todo') (he : busy todo = busy todo') :
    d.follow links place todo = d.follow links place todo' := by
  rw [follow_busy d links place todo h, follow_busy d links place todo' h', he]

/-- A file in a directory is spelled with its name at the end. -/
theorem segments_join_name (dir : Path) {name : Text} (hn : IsNamed (.name name)) :
    ∃ init, segments (dir.join ⟨name⟩).chars = init ++ [name] := by
  have hslash : '/' ∉ name := hn.2
  have hseg := Path.segments_of_slash_not_mem hslash
  by_cases hd : dir.chars = []
  · refine ⟨[], ?_⟩
    have : (dir.join ⟨name⟩).chars = name := by
      unfold Path.join
      split
      · rfl
      · rw [hd]; rfl
    rw [this, hseg]; rfl
  · have hrel : Path.isAbsolute ⟨name⟩ = false := Bool.eq_false_iff.mpr fun ha => by
      obtain ⟨cs, hcs⟩ := Path.isAbsolute_iff.mp ha
      exact hslash (by rw [show name = '/' :: cs from hcs]; exact List.mem_cons_self)
    obtain ⟨a, -, hj⟩ := Path.chars_join hrel hd
    exact ⟨segments a, by rw [hj, Path.segments_append_slash, hseg]⟩

/-- **Disks are coherent.** -/
theorem coherent (d : Disk) (cwd : Option Path) : (d.view cwd).Coherent := by
  intro dir dir' name hs hn
  have hsame : (dir.join ⟨name⟩).Same (dir'.join ⟨name⟩) := hs.join ⟨name⟩
  obtain ⟨a, ha⟩ := segments_join_name dir hn
  obtain ⟨b, hb⟩ := segments_join_name dir' hn
  have hidle : isIdle name = false := by
    rw [← Bool.not_eq_true, ← Path.ofSegment_eq_none_iff,
      show Component.ofSegment name = _ from hn.1]
    exact Option.some_ne_none _
  have hend : ∀ init : List Text, EndsBusy (init ++ [name]) := fun init =>
    EndsBusy.append (List.cons_ne_nil _ _) fun s h => by cases h; exact hidle
  have hbusy : busy (a ++ [name]) = busy (b ++ [name]) := by
    rw [← ha, ← hb]
    exact hsame.segments
  have hresolve : d.resolve cwd (dir.join ⟨name⟩) = d.resolve cwd (dir'.join ⟨name⟩) := by
    have hne : ∀ p : Path, segments p.chars ≠ [[]] → p.chars.isEmpty = false := fun p h => by
      cases e : p.chars with
      | nil => exact absurd (by rw [e]; rfl) h
      | cons _ _ => rfl
    have hname : ∀ init : List Text, init ++ [name] ≠ [[]] := fun init h => by
      cases hend init [] (by rw [h]; rfl)
    unfold resolve
    rw [hne _ (ha ▸ hname a), hne _ (hb ▸ hname b), hsame.isAbsolute, ha, hb]
    rw [follow_congr d linkLimit [] (hend a) (hend b) hbusy]
    split
    · rfl
    · split
      · rfl
      · cases cwd with
        | none => rfl
        | some w =>
          simp only [← List.append_assoc]
          exact follow_congr d linkLimit [] (hend _) (hend _)
            (by rw [List.append_assoc, List.append_assoc, busy_append, busy_append _ (b ++ [name]),
              hbusy])
  change (d.read cwd _).toOption = (d.read cwd _).toOption
  rw [read, read, hresolve]

end Disk

end ImportLint
