import ImportLint.Syntax.Grammar.Basic

/-!
# Grammar — phrases

The rules of the grammar call each other in circles.  A rule that is called from before its
definition is called by its phrase, through the parser of all phrases that it is given.

* `Phrase`: the rules that can be called so, by what they read.
* `Descend`: a parser of all phrases.
-/

namespace ImportLint.Syntax

inductive Phrase : Type → Type where
  /-- Expressions between commas. -/
  | expression : Phrase Tree
  | assignment : Phrase Tree
  /-- An assignment that does not begin with type parameters. -/
  | plainAssignment : Phrase Tree
  | binary : Phrase Tree
  | unary : Phrase Tree
  | leftHand : Phrase Tree
  | construction : Phrase Tree
  /-- What is called, or whose member is taken, and more of this. -/
  | subscripts (base : Tree) (noCall noComputed : Bool) : Phrase Tree
  | object : Phrase Tree
  /-- The substitutions of a template. -/
  | template (isTagged : Bool) : Phrase (List Tree)
  | element : Phrase Tree
  | arguments (isImport : Bool) : Phrase (List Tree)
  | decorators (beforeExport : Bool) : Phrase (List Tree)
  | type : Phrase Unit
  /-- A type that is not conditional. -/
  | plainType : Phrase Unit
  /-- A type behind an operator like `keyof`, or without one. -/
  | operatorType : Phrase Unit
  | typeArguments : Phrase Unit
  | typeParameters (allowInOut allowConst : Bool) : Phrase (List Span)
  | pattern (noLet : Bool) : Phrase Tree
  | block : Phrase Tree
  | statement (declarations : Bool) : Phrase Tree
  /-- A statement or an item of a module. -/
  | item : Phrase Tree
  /-- The items up to a closing brace. -/
  | moduleBlock : Phrase Tree
  | classMember : Phrase Tree

/-- A parser of all phrases. -/
abbrev Descend := {α : Type} → Phrase α → Parser α

end ImportLint.Syntax
