import ImportLint.Path.Basic

/-!
# Kinds of module files

`ModuleKind.ofPath` tells the kind of a file from its name alone.
-/

namespace ImportLint

/-- What a module file holds. -/
inductive ModuleKind where
  | typeScript
  | tsx
  | declaration
  | javaScript
  | jsx
  | json
deriving DecidableEq, Repr, Inhabited

namespace ModuleKind

/-- The kind of the file at a path; none for files that are no modules. -/
def ofPath (p : Path) : Option ModuleKind := do
  let name ← p.fileName
  if Text.endsWith ".d.ts".toList name || Text.endsWith ".d.mts".toList name
      || Text.endsWith ".d.cts".toList name then
    return .declaration
  match String.ofList (← Path.extensionOfName name) with
  | "ts" | "mts" | "cts" => some .typeScript
  | "tsx" => some .tsx
  | "js" | "mjs" | "cjs" => some .javaScript
  | "jsx" => some .jsx
  | "json" => some .json
  | _ => none

/-- Carries types: a typed source or a declaration. -/
def isTyped : ModuleKind → Bool
  | .typeScript | .tsx | .declaration => true
  | .javaScript | .jsx | .json => false

/-- The word for a kind in answers. -/
def label : ModuleKind → String
  | .typeScript => "typescript"
  | .tsx => "tsx"
  | .declaration => "declaration"
  | .javaScript => "javascript"
  | .jsx => "jsx"
  | .json => "json"

end ModuleKind

end ImportLint
