import ImportLint.Files.Disk

/-!
# Files — walking a directory

* `Disk.walk`: the files and links below a path, with a test for every entry on the way.  What
  is known about a directory is handed down to its entries.
-/

namespace ImportLint.Disk

/-- The entries below a directory that are no directories, to the given depth.  `known` is
what is known within the directory, and links are not followed. -/
def walkBelow {σ : Type} (d : Disk) (enter : σ → Path → σ) (admits : σ → Path → Bool → Bool) :
    Nat → σ → Path → List Text → List Path
  | 0, _, _, _ => []
  | depth + 1, known, dir, place =>
    (d.children place).flatMap fun (name, node) =>
      let p := dir.join ⟨name⟩
      match node with
      | .directory =>
        if admits known p true then
          walkBelow d enter admits depth (enter known p) p (place ++ [name])
        else []
      | _ => if admits known p false then [p] else []

/-- The files at and below a path.  The path itself is always taken, also through a link. -/
def walk {σ : Type} (d : Disk) (enter : σ → Path → σ) (admits : σ → Path → Bool → Bool)
    (known : σ) (root : Path) : List Path :=
  match d.resolve none root with
  | .error _ => []
  | .ok (place, .directory) =>
    d.walkBelow enter admits (d.places.length + 1) (enter known root) root place
  | .ok _ => [root]

end ImportLint.Disk
