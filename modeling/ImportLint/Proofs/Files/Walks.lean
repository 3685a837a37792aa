import Mathlib.Data.List.Nodup
import Mathlib.Data.List.Perm.Subperm
import ImportLint.Files.Walk
import ImportLint.Proofs.Path.Names

/-!
# Files — walks over a disk

A walk takes every way down from a directory that it admits step by step.  Its bound on the depth
leaves no way out: a way goes through a place of the disk with each step.

* `Disk.IsProper`: places are named by names.
* `Disk.Descends`: a way down that a walk takes.
* `mem_walkBelow`: a walk with a bound takes the ways up to it.
* `mem_walk`: a walk takes all ways down from a directory.
-/

namespace ImportLint.Disk

open ImportLint.Path (AreNames IsName)

/-! ### Proper disks -/

/-- All places of a disk are named by names. -/
def IsProper (d : Disk) : Prop := ∀ e ∈ d.places, AreNames e.1

instance (d : Disk) : Decidable d.IsProper := inferInstanceAs (Decidable (∀ e ∈ d.places, _))

/-- The entries of a directory are the places one name further. -/
theorem mem_children {d : Disk} {place : List Text} {name : Text} {node : DiskNode} :
    (name, node) ∈ d.children place ↔ (place ++ [name], node) ∈ d.places := by
  unfold children
  rw [List.mem_filterMap]
  constructor
  · rintro ⟨⟨at', node'⟩, hmem, he⟩
    rcases List.eq_nil_or_concat at' with rfl | ⟨upper, last, rfl⟩
    · cases he
    · simp only [List.concat_eq_append, List.getLast?_concat, List.dropLast_concat] at he hmem
      split at he
      · next hplace =>
        cases he
        rwa [← eq_of_beq hplace]
      · cases he
  · intro hmem
    refine ⟨_, hmem, ?_⟩
    simp only [List.getLast?_concat, List.dropLast_concat, beq_self_eq_true, if_true]

/-! ### Ways down -/

section Walks

variable {σ : Type} {d : Disk} {enter : σ → Path → σ} {admits : σ → Path → Bool → Bool}

/-- A way down from a directory: through directories to something else, all of which are
admitted with what is known within the directory around them. -/
inductive Descends (d : Disk) (enter : σ → Path → σ) (admits : σ → Path → Bool → Bool) :
    σ → Path → List Text → List Text → Prop where
  | entry {known : σ} {dir : Path} {place : List Text} {name : Text} {node : DiskNode}
      (hmem : (place ++ [name], node) ∈ d.places) (hnode : node ≠ .directory)
      (hadmits : admits known (dir.join ⟨name⟩) false = true) :
      Descends d enter admits known dir place [name]
  | down {known : σ} {dir : Path} {place : List Text} {name : Text} {names : List Text}
      (hmem : (place ++ [name], .directory) ∈ d.places)
      (hadmits : admits known (dir.join ⟨name⟩) true = true)
      (rest : Descends d enter admits (enter known (dir.join ⟨name⟩)) (dir.join ⟨name⟩)
        (place ++ [name]) names) :
      Descends d enter admits known dir place (name :: names)

/-- **A walk with a bound** takes the ways up to it. -/
theorem mem_walkBelow {depth : Nat} {known : σ} {dir : Path} {place : List Text} {p : Path} :
    p ∈ d.walkBelow enter admits depth known dir place ↔
      ∃ names, Descends d enter admits known dir place names ∧ names.length ≤ depth ∧
        p = dir.below names := by
  induction depth generalizing known dir place with
  | zero =>
      refine ⟨fun h => (nomatch h), ?_⟩
      rintro ⟨names, hway, hlen, -⟩
      cases hway <;> cases hlen
  | succ depth ih =>
      rw [walkBelow, List.mem_flatMap]
      constructor
      · rintro ⟨⟨name, node⟩, hmem, hp⟩
        rw [mem_children] at hmem
        by_cases hnode : node = .directory
        · subst hnode
          simp only at hp
          split at hp
          · next hadmits =>
            obtain ⟨names, hway, hlen, rfl⟩ := ih.mp hp
            exact ⟨name :: names, .down hmem hadmits hway, Nat.succ_le_succ hlen, rfl⟩
          · cases hp
        · have hp : p ∈ if admits known (dir.join ⟨name⟩) false = true then [dir.join ⟨name⟩]
              else [] := by
            cases node with
            | directory => exact absurd rfl hnode
            | file content => exact hp
            | link target => exact hp
          split at hp
          · next hadmits =>
            exact ⟨[name], .entry hmem hnode hadmits, Nat.succ_le_succ (Nat.zero_le depth),
              List.mem_singleton.mp hp⟩
          · cases hp
      · rintro ⟨names, hway, hlen, rfl⟩
        cases hway with
        | @entry _ _ _ name node hmem hnode hadmits =>
            refine ⟨(name, node), mem_children.mpr hmem, ?_⟩
            cases node with
            | directory => exact absurd rfl hnode
            | file content => simp only; rw [if_pos hadmits]; exact List.mem_singleton_self _
            | link target => simp only; rw [if_pos hadmits]; exact List.mem_singleton_self _
        | @down _ _ _ name names hmem hadmits hway =>
            refine ⟨(name, .directory), mem_children.mpr hmem, ?_⟩
            simp only
            rw [if_pos hadmits]
            exact ih.mpr ⟨names, hway, Nat.le_of_succ_le_succ hlen, rfl⟩

/-- Each step of a way is at a place of the disk. -/
theorem Descends.mem_places {known : σ} {dir : Path} {place names : List Text}
    (h : Descends d enter admits known dir place names) {init : List Text} (hi : init <+: names)
    (hne : init ≠ []) : place ++ init ∈ d.places.map Prod.fst := by
  induction h generalizing init with
  | entry hmem hnode hadmits =>
      rcases List.prefix_cons_iff.mp hi with rfl | ⟨t, rfl, ht⟩
      · exact absurd rfl hne
      · rw [List.prefix_nil.mp ht]
        exact List.mem_map.mpr ⟨_, hmem, rfl⟩
  | @down _ _ place name names hmem hadmits hway ih =>
      rcases List.prefix_cons_iff.mp hi with rfl | ⟨t, rfl, ht⟩
      · exact absurd rfl hne
      · by_cases hnil : t = []
        · rw [hnil]
          exact List.mem_map.mpr ⟨_, hmem, rfl⟩
        · have := ih ht hnil
          rwa [List.append_assoc] at this

/-- A way is no longer than there are places. -/
theorem Descends.length_le {known : σ} {dir : Path} {place names : List Text}
    (h : Descends d enter admits known dir place names) : names.length ≤ d.places.length := by
  -- the beginnings of the way are different places
  have hnodup : ((List.range names.length).map fun n => place ++ names.take (n + 1)).Nodup := by
    refine List.Nodup.map_on (fun m hm n hn e => ?_) List.nodup_range
    have hlen := congrArg List.length (List.append_cancel_left e)
    rw [List.mem_range] at hm hn
    simp only [List.length_take] at hlen
    omega
  have hsub : ((List.range names.length).map fun n => place ++ names.take (n + 1)) ⊆
      d.places.map Prod.fst := by
    intro at' hat
    obtain ⟨n, hn, rfl⟩ := List.mem_map.mp hat
    refine h.mem_places (List.take_prefix _ names) fun hnil => ?_
    rw [List.mem_range] at hn
    have hlen := congrArg List.length hnil
    rw [List.length_take, List.length_nil] at hlen
    omega
  have hle := (hnodup.subperm hsub).length_le
  rwa [List.length_map, List.length_map, List.length_range] at hle

/-- The names of a way on a proper disk can be names. -/
theorem Descends.areNames (hd : d.IsProper) {known : σ} {dir : Path} {place names : List Text}
    (h : Descends d enter admits known dir place names) : AreNames names := by
  have hne : names ≠ [] := by cases h <;> exact List.cons_ne_nil _ _
  obtain ⟨e, he, hplace⟩ := List.mem_map.mp (h.mem_places (List.prefix_refl names) hne)
  have := hd e he
  rw [hplace] at this
  exact (Path.areNames_append.mp this).2

/-- A way down where nothing has to be known: its end and all directories on the way are at
their places and admitted. -/
theorem descends_iff {admits : Path → Bool → Bool} {known : Unit} {dir : Path}
    {place names : List Text} :
    Descends d (fun () _ => ()) (fun () => admits) known dir place names ↔
      names ≠ [] ∧ (∃ node, node ≠ .directory ∧ (place ++ names, node) ∈ d.places) ∧
        admits (dir.below names) false = true ∧
        ∀ init, init <+: names → init ≠ [] → init ≠ names →
          (place ++ init, .directory) ∈ d.places ∧ admits (dir.below init) true = true := by
  constructor
  · intro h
    induction h with
    | entry hmem hnode hadmits =>
        refine ⟨List.cons_ne_nil _ _, ⟨_, hnode, hmem⟩, hadmits, fun init hi hne hend => ?_⟩
        rcases List.prefix_cons_iff.mp hi with rfl | ⟨t, rfl, ht⟩
        · exact absurd rfl hne
        · exact absurd (congrArg _ (List.prefix_nil.mp ht)) hend
    | @down _ _ place name names hmem hadmits hway ih =>
        obtain ⟨-, ⟨node, hnode, hentry⟩, hlast, hinside⟩ := ih
        rw [List.append_assoc] at hentry
        refine ⟨List.cons_ne_nil _ _, ⟨node, hnode, hentry⟩, hlast, fun init hi hne hend => ?_⟩
        rcases List.prefix_cons_iff.mp hi with rfl | ⟨t, rfl, ht⟩
        · exact absurd rfl hne
        · by_cases hnil : t = []
          · rw [hnil]
            exact ⟨hmem, hadmits⟩
          · obtain ⟨hplace, hadmits⟩ := hinside t ht hnil fun e => hend (e ▸ rfl)
            rw [List.append_assoc] at hplace
            exact ⟨hplace, hadmits⟩
  · rintro ⟨hne, ⟨node, hnode, hentry⟩, hlast, hinside⟩
    induction names generalizing dir place with
    | nil => exact absurd rfl hne
    | cons name names ih =>
        by_cases hnil : names = []
        · subst hnil
          exact .entry hentry hnode hlast
        · obtain ⟨hplace, hadmits⟩ := hinside [name] ⟨names, rfl⟩ (List.cons_ne_nil _ _)
            fun e => hnil (List.cons.inj e).2.symm
          refine .down hplace hadmits (ih hnil ?_ hlast fun init hi hne hend => ?_)
          · rwa [List.append_assoc]
          · rw [List.append_assoc]
            exact hinside (name :: init) (List.cons_prefix_cons.mpr ⟨rfl, hi⟩)
              (List.cons_ne_nil _ _) fun e => hend (List.cons.inj e).2

/-- **A walk** from a directory takes all ways down. -/
theorem mem_walk {known : σ} {root p : Path} {place : List Text}
    (hr : d.resolve none root = .ok (place, .directory)) :
    p ∈ d.walk enter admits known root ↔
      ∃ names, Descends d enter admits (enter known root) root place names ∧
        p = root.below names := by
  rw [walk, hr]
  simp only
  rw [mem_walkBelow]
  refine exists_congr fun names => and_congr_right fun hway => ?_
  rw [and_iff_right (Nat.le_succ_of_le hway.length_le)]

/-- A walk from something else takes that alone. -/
theorem walk_of_ne_directory {known : σ} {root : Path} {place : List Text} {node : DiskNode}
    (hr : d.resolve none root = .ok (place, node)) (hnode : node ≠ .directory) :
    d.walk enter admits known root = [root] := by
  rw [walk, hr]
  cases node with
  | directory => exact absurd rfl hnode
  | file content => rfl
  | link target => rfl

theorem walk_of_error {known : σ} {root : Path} {f : IoFailure}
    (hr : d.resolve none root = .error f) : d.walk enter admits known root = [] := by
  rw [walk, hr]

end Walks

end ImportLint.Disk
