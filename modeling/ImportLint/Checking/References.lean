import ImportLint.Checking.Facts
import ImportLint.Syntax.Tree

/-!
# Checking — references

The references of a source are the string literals that say what a module loads.  Not every part
of a source is looked at.

* `Syntax.Tree.references`: the references in a tree, in the order in which they are written.
* `Syntax.Kind.select`: the parts of a tree that are looked at.
-/

namespace ImportLint

open Syntax

/-- A string literal as a reference; other trees are none. -/
def Reference.ofTree? : Tree → Option Reference
  | .node (.string value) place _ => some ⟨value, place.lo, max (place.hi - place.lo) 1⟩
  | _ => none

/-- The string literal that a call begins its arguments with. -/
def Reference.ofArguments? : List Tree → Option Reference
  | .node .spread _ [e] :: _ => Reference.ofTree? e
  | t :: _ => Reference.ofTree? t
  | [] => none

namespace Syntax

/-- A call of this loads the module that its first argument names. -/
def Tree.loads (callee : Tree) : Bool := callee.kind = .importKeyword || callee.isName "require"

/-- Of what belongs to each part of a tree, that of the parts that are looked at. -/
def Kind.select {α : Type} (k : Kind) (parts : List α) : List α :=
  match k with
  | .expressionStatement | .block | .conditional | .switch | .defaultCase | .attempt
  | .returned | .labelled | .variableDeclaration | .exportDeclaration | .exportDefault
  | .sequence | .paren | .await | .choice | .binary _ | .unary _ | .array | .object | .spread
  | .template | .typed .cast | .typed .nonNull | .call => parts
  | .case | .declarator | .functionDeclaration .. | .function .. | .arrow | .assign _ | .entry =>
    parts.drop 1
  | .handler | .whileLoop | .forLoop | .forIn | .forOf => parts.drop (parts.length - 1)
  | .doWhile | .member => parts.take 1
  | _ => []

/-- The references of a tree, given those of its parts. -/
def Tree.gather (k : Kind) (parts : List Tree) (found : List (List Reference)) :
    List Reference :=
  match k, parts with
  | .importFrom, t :: _ | .exportAll, t :: _ | .exportNames, t :: _ | .importEquals, t :: _ =>
    (Reference.ofTree? t).toList
  | .call, callee :: arguments =>
    if callee.loads then (Reference.ofArguments? arguments).toList else found.flatten
  | _, _ => (k.select found).flatten

mutual

/-- The references in a tree. -/
def Tree.references : Tree → List Reference
  | .node k _ parts => Tree.gather k parts (partReferences parts)

/-- The references in each of some trees. -/
def partReferences : List Tree → List (List Reference)
  | [] => []
  | t :: ts => t.references :: partReferences ts

end

end Syntax

end ImportLint
