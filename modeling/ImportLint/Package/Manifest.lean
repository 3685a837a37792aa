import ImportLint.Files.View
import ImportLint.Json.Reader

/-!
# Package manifests

A manifest names the entry files of a package.  It is an object with the members `main`,
`types` and `typings`, or an array of their values in this order.

* `Manifest.decode`: the entries that a text names; a malformed text is no manifest.
* `Manifest.load`: the manifest of a directory.

The three members are read exactly, all others for their syntax alone; a member of the three
that comes twice makes the text malformed.
-/

namespace ImportLint

/-- The entry files that a package names. -/
structure Manifest where
  main : Option Path := none
  types : Option Path := none
deriving DecidableEq, Repr, Inhabited

namespace Manifest

def fileName : Text := "package.json".toList

/-- The values of the three members, as far as they have been read. -/
structure Members where
  main : Option Json := none
  types : Option Json := none
  typings : Option Json := none

/-- The levels of arrays and objects below the manifest's own. -/
def depthLimit : Nat := 126

/-- Gives a member its value, unless it has one already. -/
def Members.add? (m : Members) (key : Text) (value : Json) : Option Members :=
  if key = "main".toList then
    if m.main.isSome then none else some { m with main := some value }
  else if key = "types".toList then
    if m.types.isSome then none else some { m with types := some value }
  else if key = "typings".toList then
    if m.typings.isSome then none else some { m with typings := some value }
  else some m

def isMember (key : Text) : Bool :=
  key == "main".toList || key == "types".toList || key == "typings".toList

/-- The members of an object behind its brace, up to the closing one. -/
def readMembers : Nat → Members → Text → Option (Members × Text)
  | 0, _, _ => none
  | fuel + 1, m, cs => do
    match Json.skipSpace cs with
    | '"' :: rest =>
      let (key, rest) ← Json.readString ⟨true⟩ rest
      match Json.skipSpace rest with
      | ':' :: rest =>
        let (value, rest) ←
          if isMember key then Json.read ⟨true⟩ (some depthLimit) rest
          else Json.read ⟨false⟩ none rest
        let m ← m.add? key value
        match Json.skipSpace rest with
        | ',' :: rest => readMembers fuel m rest
        | '\x7d' :: rest => some (m, rest)
        | _ => none
      | _ => none
    | _ => none

/-- The items of an array behind its bracket, up to the closing one. -/
def readItems : List Text → Members → Text → Option (Members × Text)
  | [], _, _ => none
  | key :: keys, m, cs => do
    let (value, rest) ← Json.read ⟨true⟩ (some depthLimit) cs
    let m ← m.add? key value
    match Json.skipSpace rest with
    | ',' :: rest => readItems keys m rest
    | ']' :: rest => some (m, rest)
    | _ => none

def readAll (cs : Text) : Option (Members × Text) :=
  match Json.skipSpace cs with
  | '\x7b' :: rest =>
    match Json.skipSpace rest with
    | '\x7d' :: rest => some ({}, rest)
    | rest => readMembers (rest.length + 1) {} rest
  | '[' :: rest =>
    match Json.skipSpace rest with
    | ']' :: rest => some ({}, rest)
    | rest => readItems ["main".toList, "types".toList, "typings".toList] {} rest
  | _ => none

/-- The file that a member names: a string that is not blank. -/
def target? : Option Json → Option Path
  | some (.string t) => if (Text.trim t).isEmpty then none else some ⟨t⟩
  | _ => none

/-- The entries that the text of a manifest names. -/
def decode (text : Text) : Option Manifest := do
  let (m, rest) ← readAll text
  if (Json.skipSpace rest).isEmpty then
    some { main := target? m.main, types := (target? m.types).orElse fun _ => target? m.typings }
  else none

/-- The manifest of a directory.  One that cannot be read or decoded counts as absent. -/
def load (view : FileView) (dir : Path) : Option Manifest :=
  match view.read (dir.join ⟨fileName⟩) with
  | .ok text => decode text
  | .error _ => none

end Manifest

end ImportLint
