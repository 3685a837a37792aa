import ImportLint.Path.Basic
import ImportLint.Report.Position

/-!
# Diagnostics and reports

An engine places its findings by byte offset and length (`Diagnostic`); a run prints them with
lines and columns (`Report`).

* `Diagnostic.toReport`: a report with a range where the place is known, and a report on the
  visited file as a whole where it is not.
-/

namespace ImportLint

inductive Category where
  | error
  | warning
  | suggestion
  | message
deriving DecidableEq, Repr, Inhabited

def Category.label : Category → String
  | .error => "error"
  | .warning => "warning"
  | .suggestion => "suggestion"
  | .message => "message"

/-- One finding of an engine. -/
structure Diagnostic where
  category : Category
  code : Nat
  message : String
  file : Option Path := none
  start : Option Nat := none
  length : Option Nat := none
deriving DecidableEq, Repr, Inhabited

/-- A finding about the bytes from `start` on in a file. -/
def Diagnostic.located (category : Category) (code : Nat) (message : String) (file : Path)
    (start length : Nat) : Diagnostic :=
  { category, code, message, file := some file, start := some start, length := some length }

/-- Where a report points. -/
inductive Location where
  | range (first last : Position)
  /-- A file as a whole. -/
  | node (file : Path)
deriving DecidableEq, Repr, Inhabited

/-- A finding, ready to print. -/
structure Report where
  file : Path
  category : Category
  code : Nat
  message : String
  location : Location
deriving DecidableEq, Repr, Inhabited

namespace Report

def isError (r : Report) : Bool := r.category == .error

/-- A report on a file as a whole. -/
def onNode (node : Path) (category : Category) (code : Nat) (message : String) : Report where
  file := node
  category
  code
  message
  location := .node node

end Report

/-- The file and the bytes that a diagnostic is about, unless some part is missing or there are
no bytes. -/
def Diagnostic.span? (d : Diagnostic) : Option (Path × Nat × Nat) := do
  let file ← d.file
  let start ← d.start
  let length ← d.length
  if length = 0 then none else some (file, start, length)

/-- The report of a diagnostic.  `table` supplies the lines of the diagnostic's file, if that
file can be read.  Without a span and a table, the report is on `node`. -/
def Diagnostic.toReport (d : Diagnostic) (node : Path) (table : Path → Option LineTable) :
    Report :=
  let place : Option (Path × LineTable × Nat × Nat) := do
    let (file, start, length) ← d.span?
    some (file, ← table file, start, length)
  match place with
  | none => Report.onNode node d.category d.code d.message
  | some (file, lines, start, length) =>
    { file
      category := d.category
      code := d.code
      message := d.message
      location := .range (lines.position start) (lines.position (start + length)) }

end ImportLint
