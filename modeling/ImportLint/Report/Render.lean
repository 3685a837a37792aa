import ImportLint.Json.Printer
import ImportLint.Report.Diagnostic

/-!
# Reports — output

* `Report.renderLines`: one line for each report and a line of counts.
* `Report.toJson`, `Report.renderJson`: the same for machines.
-/

namespace ImportLint

/-- The counts of a run. -/
structure Summary where
  files : Nat
  errors : Nat
  warnings : Nat
deriving DecidableEq, Repr, Inhabited

def Summary.ofReports (files : Nat) (reports : List Report) : Summary where
  files
  errors := reports.countP Report.isError
  warnings := reports.countP fun r => r.category == .warning

/-- A count with its noun. -/
def counted (n : Nat) (noun : String) : String :=
  if n = 1 then s!"{n} {noun}" else s!"{n} {noun}s"

def Summary.line (s : Summary) : String :=
  "Checked " ++ counted s.files "file" ++ ": " ++ counted s.errors "error" ++ ", "
    ++ counted s.warnings "warning"

namespace Report

/-- `path:line:column: category[code]: message`, the path as seen from `root` and columns
counted from 1. -/
def line (root : Path) (r : Report) : String :=
  let path := (r.file.stripBase root).getD r.file
  let place := match r.location with
    | .range first _ => s!"{path}:{first.line}:{first.column + 1}"
    | .node _ => s!"{path}"
  s!"{place}: {r.category.label}[{r.code}]: {r.message}"

/-- The reports and the counts as lines of text. -/
def renderLines (reports : List Report) (summary : Summary) (root : Path) : String :=
  String.join <| (reports.map (line root) ++ [summary.line]).map fun l => l ++ "\n"

def locationJson : Location → Json
  | .range first last => .object [
      ("kind".toList, .ofString "range"),
      ("start_line".toList, .ofNat first.line),
      ("start_col".toList, .ofNat first.column),
      ("end_line".toList, .ofNat last.line),
      ("end_col".toList, .ofNat last.column)]
  | .node file => .object [
      ("kind".toList, .ofString "node"),
      ("file".toList, .string file.chars)]

def toJson (r : Report) : Json := .object [
  ("file".toList, .string r.file.chars),
  ("category".toList, .ofString r.category.label),
  ("code".toList, .ofNat r.code),
  ("message".toList, .ofString r.message),
  ("location".toList, locationJson r.location)]

end Report

def Summary.toJson (s : Summary) : Json := .object [
  ("files".toList, .ofNat s.files),
  ("errors".toList, .ofNat s.errors),
  ("warnings".toList, .ofNat s.warnings)]

/-- The reports and the counts as one JSON document. -/
def Report.renderJson (reports : List Report) (summary : Summary) : Text :=
  Json.pretty <| .object [
    ("summary".toList, summary.toJson),
    ("reports".toList, .array (reports.map Report.toJson))]

end ImportLint
