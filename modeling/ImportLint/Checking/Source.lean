import ImportLint.Checking.References
import ImportLint.Syntax.Parser

/-!
# Checking — sources

* `SourceFacts.ofText`: the references and the syntax errors of a text.
-/

namespace ImportLint

open Syntax

/-- An error where it stands; an empty place counts as one byte. -/
def SyntaxProblem.ofFault (f : Fault) : SyntaxProblem :=
  ⟨f.span.lo, max (f.span.hi - f.span.lo) 1, f.fault.message⟩

/-- A text without the mark of its byte order. -/
def withoutMark : Text → Text
  | c :: cs => if c.toNat = 0xFEFF then cs else c :: cs
  | [] => []

/-- The facts of a module.  Where the reading was ended there are no references. -/
def SourceFacts.ofModule (m : Module) : SourceFacts :=
  let faults := m.faults.map .ofFault
  match m.items with
  | .ok items => ⟨items.flatMap Tree.references, faults⟩
  | .error f => ⟨[], faults ++ [.ofFault f]⟩

/-- The facts of a text; some kinds of modules are no sources. -/
def SourceFacts.ofText (kind : ModuleKind) (text : Text) : SourceFacts :=
  match Dialect.ofKind kind with
  | some d => .ofModule (.ofText d (withoutMark text))
  | none => {}

end ImportLint
