import ImportLint.ModuleKind

/-!
# Syntax — dialects and contexts

* `Dialect`: what the language of a source has beyond the common one.
* `Context`: what surrounds the place that is being read.
-/

namespace ImportLint.Syntax

structure Dialect where
  /-- Types, and all that comes with them. -/
  types : Bool := false
  /-- Markup in expressions. -/
  markup : Bool := false
  /-- A file of declarations. -/
  declarations : Bool := false
  decorators : Bool := false
deriving DecidableEq, Repr, Inhabited

/-- The dialect of a kind of module; some kinds are no sources. -/
def Dialect.ofKind : ModuleKind → Option Dialect
  | .typeScript => some { types := true, decorators := true }
  | .tsx => some { types := true, markup := true, decorators := true }
  | .declaration => some { types := true, declarations := true }
  | .javaScript => some {}
  | .jsx => some { markup := true }
  | .json => none

structure Context where
  /-- Errors that do not stop the reading are dropped. -/
  quiet : Bool := false
  inType : Bool := false
  inDeclare : Bool := false
  /-- `in` is an operator. -/
  allowIn : Bool := false
  inAsync : Bool := false
  inGenerator : Bool := false
  breakAllowed : Bool := false
  continueAllowed : Bool := false
  inFunction : Bool := false
  inConditional : Bool := false
  /-- Between `?` and `:`. -/
  colonFollows : Bool := false
  /-- A branch of a conditional expression begins here. -/
  startsBranch : Bool := false
  inParameters : Bool := false
  inStaticBlock : Bool := false
  inField : Bool := false
  inClass : Bool := false
  inPropertyName : Bool := false
  /-- Markup that began with a plain `<`. -/
  looseMarkup : Bool := false
  /-- Angle brackets are operators even in types. -/
  wideAngles : Bool := false
  /-- In a function that is no arrow. -/
  inOwnFunction : Bool := false
  hasSuperclass : Bool := false
  superAllowed : Bool := false
  inForHead : Bool := false
  inForAwaitHead : Bool := false
  /-- `extends` does not make a type conditional. -/
  plainTypes : Bool := false
deriving DecidableEq, Repr, Inhabited

namespace Context

/-- `await` is no name here. -/
def awaits (c : Context) : Bool := c.inAsync || c.inStaticBlock

end Context

end ImportLint.Syntax
