import ImportLint.Path.Ancestors
import ImportLint.Package.Specifier
import ImportLint.Table

/-!
# Search paths

The directories in which a bare specifier is looked up, nearest first: the dependency folders
from the referring directory up to the project root, those above the project root, and the
global directories.

* `SearchPaths.build`: the list for one directory, each path once.
* `SearchPaths.forDirectory`: the same list, made once for each directory.
* `subtractCallerChain`: the library directories that do not belong to a tool's own location.
-/

namespace ImportLint

/-- The dependency folders of a directory and of its ancestors. -/
def dependencyChain (dir : Path) : List Path :=
  dir.ancestors.map fun d => d.join ⟨dependencyFolder⟩

/-- The paths of a list without those that name an earlier one again. -/
def distinctPaths (paths : List Path) : List Path :=
  (paths.foldl (fun (seen, kept) p =>
    let key := p.components
    if seen.contains key then (seen, kept) else (key :: seen, p :: kept))
    (([] : List (List Component)), ([] : List Path))).2.reverse

/-- The search paths of one project. -/
structure SearchPaths where
  projectRoot : Path
  /-- The dependency folders above the project root. -/
  aboveRoot : List Path
  /-- The global directories. -/
  globals : List Path
  /-- The lists made so far. -/
  memo : Table (List Component) (Shared (List Path))

namespace SearchPaths

def new (projectRoot : Path) (globals : List Path) : SearchPaths where
  projectRoot
  aboveRoot := match projectRoot.parent with
    | some up => dependencyChain up
    | none => []
  globals
  memo := Table.empty

/-- The ancestors of a directory up to the project root, or all of them. -/
def untilRoot (root : Path) : List Path → List Path
  | [] => []
  | d :: ds => if Path.Same d root then [d] else d :: untilRoot root ds

/-- The directories to search for a reference written in `dir`. -/
def build (s : SearchPaths) (dir : Path) : List Path :=
  distinctPaths <|
    (untilRoot s.projectRoot dir.ancestors).map (fun d => d.join ⟨dependencyFolder⟩)
      ++ s.aboveRoot ++ s.globals

/-- The list for a directory, kept for later requests. -/
def forDirectory (s : SearchPaths) (dir : Path) : Shared (List Path) × SearchPaths :=
  match s.memo.get? dir.components with
  | some known => (known, s)
  | none =>
    let made : Shared (List Path) := ⟨s.memo.size, s.build dir⟩
    (made, { s with memo := s.memo.insert dir.components made })

end SearchPaths

/-- The library directories without the dependency folders of a tool's own location. -/
def subtractCallerChain (library : List Path) (caller : Option Path) : List Path :=
  match caller with
  | none => library
  | some dir =>
    let own := (dependencyChain dir).map Path.components
    library.filter fun p => !own.contains p.components

end ImportLint
