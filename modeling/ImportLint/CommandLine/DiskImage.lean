import ImportLint.Files.Disk
import ImportLint.Json.Reader

/-!
# Command line — disk images

A disk written down as a JSON object: each member is named by a path and holds what stands
there.  Directories above a place need not be named.

* `DiskNode.ofJson?`: a text is a file, `null` a directory, and an object with a member `link` a
  symbolic link.
* `Disk.ofImage?`: the disk that a text describes.
-/

namespace ImportLint

/-- What a member of an image holds. -/
def DiskNode.ofJson? : Json → Option DiskNode
  | .string content => some (.file content)
  | .null => some .directory
  | j =>
    match j.member? "link".toList with
    | some (.string target) => some (.link ⟨target⟩)
    | _ => none

namespace Disk

/-- Adds a member of an image. -/
def addMember (d : Disk) (path : Text) (j : Json) : Option Disk := do
  return d.add (placeOf ⟨path⟩) (← DiskNode.ofJson? j)

def ofJson? : Json → Option Disk
  | .object members => members.foldlM (fun d (path, j) => d.addMember path j) {}
  | _ => none

/-- The disk that a text describes. -/
def ofImage? (text : Text) : Option Disk := do ofJson? (← Json.parse text)

end Disk

end ImportLint
