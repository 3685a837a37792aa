import ImportLint.Syntax.Token

/-!
# Syntax — trees

What a source says.  A tree has a kind, the bytes it was read from and its parts in the order
in which they are written.  Types are not kept: nothing in them is run or loaded.

* `Kind`: what a tree says, with the parts it has.
* `Tree`: a part of a source.
-/

namespace ImportLint.Syntax

/-- How types are written around an expression. -/
inductive TypeForm where
  | cast
  | satisfies
  | constant
  | assertion
  | nonNull
  | instantiation
deriving DecidableEq, Repr, Inhabited

/-- What a tree says.  Parts that may be missing are in parentheses. -/
inductive Kind where
  -- names and values
  | name (text : String)
  | string (value : Text)
  /-- Numbers, regular expressions and the words that are values. -/
  | literal
  | this
  | superKeyword
  | importKeyword
  | privateName
  /-- A place between two commas that is left out. -/
  | hole
  /-- What stands where an expression is missing. -/
  | invalid
  -- expressions
  /-- Items. -/
  | array
  /-- Members. -/
  | object
  /-- Name. -/
  | shorthand
  /-- Key, value. -/
  | entry
  /-- Name or pattern, value. -/
  | withDefault
  /-- Decorators, key, function. -/
  | method (isAbstract : Bool)
  /-- Expression in brackets. -/
  | computed
  /-- Expression behind three dots. -/
  | spread
  /-- Parameters, (body). -/
  | function (isAsync isGenerator : Bool)
  /-- Parameters. -/
  | parameters
  /-- Decorators, pattern. -/
  | parameter
  /-- A parameter that declares a member: decorators, pattern. -/
  | parameterProperty
  /-- Parameters, body. -/
  | arrow
  /-- Decorators, superclass and interfaces, members. -/
  | classValue
  | decorator
  | heritage
  /-- Parameters, (body). -/
  | constructor
  /-- Decorators, key, (value). -/
  | property (isAbstract : Bool)
  /-- Block. -/
  | staticBlock
  /-- A member without anything that is run. -/
  | signature
  | unary (operator : String)
  | update
  | binary (operator : String)
  /-- Target, value. -/
  | assign (operator : String)
  /-- Test, yes, no. -/
  | choice
  /-- Callee, arguments. -/
  | call
  | construct
  /-- Object, property. -/
  | member
  /-- A member or a call of something that may be missing. -/
  | chain
  | sequence
  /-- Substitutions. -/
  | template
  /-- Tag, substitutions. -/
  | tagged
  | yield
  | await
  | paren
  | metaProperty
  | typed (form : TypeForm)
  /-- The expressions in an element's tags and between them. -/
  | markup
  -- patterns
  | arrayPattern
  | objectPattern
  | rest
  -- statements
  | expressionStatement
  | block
  | empty
  | debugger
  /-- Test, yes, (no). -/
  | conditional
  /-- Discriminant, cases. -/
  | switch
  /-- Test, statements. -/
  | case
  | defaultCase
  /-- Block, (handler), (block). -/
  | attempt
  /-- (Pattern), block. -/
  | handler
  /-- Test, body. -/
  | whileLoop
  /-- Body, test. -/
  | doWhile
  /-- (Beginning), (test), (update), body. -/
  | forLoop
  /-- Target, source, body. -/
  | forIn
  | forOf
  | returned
  | thrown
  /-- To the end or the beginning of an enclosing statement. -/
  | jump
  /-- Name, body. -/
  | labelled
  /-- Object, body. -/
  | withObject
  -- declarations
  /-- Declarators. -/
  | variableDeclaration
  /-- Variables that are disposed of at the end of their block. -/
  | resources
  /-- Target, (value). -/
  | declarator
  | functionDeclaration (isAsync isGenerator : Bool)
  | classDeclaration
  /-- Values of the members. -/
  | enum
  /-- Items. -/
  | moduleBlock
  /-- Types alone. -/
  | types
  -- items of modules
  /-- Source, (attributes). -/
  | importFrom
  | exportAll
  /-- (Source), (attributes). -/
  | exportNames
  /-- An import by assignment: source, unless it is of a name. -/
  | importEquals
  /-- Declaration. -/
  | exportDeclaration
  | exportDefaultDeclaration
  /-- Expression. -/
  | exportDefault
  | exportEquals
  | exportNamespace
deriving DecidableEq, Repr, Inhabited

inductive Tree where
  | node (kind : Kind) (span : Span) (parts : List Tree)
deriving Repr, Inhabited

/-- From the beginning of one part to the end of another. -/
def Span.to (a b : Span) : Span := ⟨a.lo, b.hi⟩

namespace Tree

def kind : Tree → Kind
  | node k _ _ => k

def span : Tree → Span
  | node _ s _ => s

def parts : Tree → List Tree
  | node _ _ ps => ps

def leaf (k : Kind) (s : Span) : Tree := node k s []

def invalid (s : Span) : Tree := leaf .invalid s

/-- The name that a tree is. -/
def name? : Tree → Option String
  | node (.name n) _ _ => some n
  | _ => none

def isName (t : Tree) (n : String) : Bool := t.name? == some n

/-- A name that cannot be bound. -/
def isUnbindable (t : Tree) : Bool := t.name?.any Word.isUnbindable

end Tree

end ImportLint.Syntax
