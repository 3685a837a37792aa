import ImportLint.Path.Basic

/-!
# Paths — ancestors

`Path.ancestors` lists a directory and its parents, nearest first, up to the root of the file
system.  A relative path ends at its first component: the empty path is no ancestor.
-/

namespace ImportLint.Path

/-- A directory followed by each of its ancestors, nearest first. -/
def ancestors (dir : Path) : List Path :=
  dir :: match _h : dir.parent with
    | some up => if up.chars.isEmpty then [] else ancestors up
    | none => []
termination_by dir.chars.length
decreasing_by exact parent_length_lt _h

end ImportLint.Path
