import ImportLint.Path.Basic

/-!
# Paths — normal form

`Path.normalize` folds `.` and `..` away without asking any file system.  The result keeps
`..` only at the front of a relative path, and its spelling is determined by its components.
-/

namespace ImportLint.Path

/-- The spelling of a list of components, without idle segments. -/
def ofComponents : List Component → Path
  | .root :: rest => ⟨'/' :: joinSegments (rest.map Component.chars)⟩
  | cs => ⟨joinSegments (cs.map Component.chars)⟩

/-- One more component after those in `done`, which are kept last first.  A `..` takes back
the name before it, stays at `/`, and is kept where nothing can be taken back. -/
def foldComponent (done : List Component) (c : Component) : List Component :=
  match c, done with
  | .current, _ => done
  | .parent, .name _ :: rest => rest
  | .parent, .root :: _ => done
  | c, _ => c :: done

/-- The components with `.` dropped and `..` folded into the component before it. -/
def foldComponents (cs : List Component) : List Component :=
  (cs.foldl foldComponent []).reverse

/-- The path without `.` segments, with `..` folded away and one slash between names. -/
def normalize (p : Path) : Path := ofComponents (foldComponents p.components)

end ImportLint.Path
