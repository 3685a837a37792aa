import Mathlib.Data.Option.Basic
import ImportLint.Proofs.Json.Layout
import ImportLint.Report.Render

/-!
# Reports — a document can be read back

The document of a run holds the counts and the reports.  A reader that asks for members by name
and knows nothing of the printer gets both back from the text, whatever paths and messages hold.
A reader of lines finds what belongs together on lines of its own.

* `Report.document?`: the counts and the reports that a text holds.
* `Location.ofJson?_locationJson`, `Report.ofJson?_toJson`, `Summary.ofJson?_toJson`: the parts.
* `renderJson_lossless`: the document, that it tells all reports and counts apart, and its lines.
-/

namespace ImportLint

/-! ### Reading the parts -/

namespace Json

def text? : Json → Option Text
  | .string t => some t
  | _ => none

/-- A number that is written with digits only. -/
def nat? : Json → Option Nat
  | .number ⟨false, n, 0⟩ => some n
  | _ => none

def items? : Json → Option (List Json)
  | .array vs => some vs
  | _ => none

/-- The text of a member. -/
def textOf? (j : Json) (name : String) : Option Text := (j.member? name.toList).bind text?

/-- The number of a member. -/
def natOf? (j : Json) (name : String) : Option Nat := (j.member? name.toList).bind nat?

end Json

def Category.ofLabel? (label : Text) : Option Category :=
  match String.ofList label with
  | "error" => some .error
  | "warning" => some .warning
  | "suggestion" => some .suggestion
  | "message" => some .message
  | _ => none

/-- A location, told by its kind: a range of two positions, or a file as a whole. -/
def Location.ofJson? (j : Json) : Option Location := do
  match String.ofList (← j.textOf? "kind") with
  | "range" =>
    return .range ⟨← j.natOf? "start_line", ← j.natOf? "start_col"⟩
      ⟨← j.natOf? "end_line", ← j.natOf? "end_col"⟩
  | "node" => return .node ⟨← j.textOf? "file"⟩
  | _ => none

def Report.ofJson? (j : Json) : Option Report := do
  return {
    file := ⟨← j.textOf? "file"⟩
    category := ← Category.ofLabel? (← j.textOf? "category")
    code := ← j.natOf? "code"
    message := String.ofList (← j.textOf? "message")
    location := ← Location.ofJson? (← j.member? "location".toList) }

def Summary.ofJson? (j : Json) : Option Summary := do
  return ⟨← j.natOf? "files", ← j.natOf? "errors", ← j.natOf? "warnings"⟩

/-- The counts and the reports that a text holds, if it is a document with both. -/
def Report.document? (text : Text) : Option (Summary × List Report) := do
  let (j, rest) ← Json.read Json.syntaxOnly none text
  guard (Json.skipSpace rest).isEmpty
  let summary ← Summary.ofJson? (← j.member? "summary".toList)
  let reports ← (← (← j.member? "reports".toList).items?).mapM Report.ofJson?
  return (summary, reports)

/-! ### What is written is read -/

theorem Category.ofLabel?_label (c : Category) : ofLabel? c.label.toList = some c := by
  cases c <;> decide +kernel

theorem Location.ofJson?_locationJson (l : Location) :
    ofJson? (Report.locationJson l) = some l := by
  cases l <;> rfl

theorem Report.ofJson?_toJson (r : Report) : ofJson? r.toJson = some r := by
  have hfile : r.toJson.textOf? "file" = some r.file.chars := rfl
  have hlabel : r.toJson.textOf? "category" = some r.category.label.toList := rfl
  have hcode : r.toJson.natOf? "code" = some r.code := rfl
  have hmessage : r.toJson.textOf? "message" = some r.message.toList := rfl
  have hplace : r.toJson.member? "location".toList = some (locationJson r.location) := rfl
  simp only [ofJson?, hfile, hlabel, hcode, hmessage, hplace, Option.bind_eq_bind,
    Option.bind_some, Category.ofLabel?_label, Location.ofJson?_locationJson, String.ofList_toList]
  rfl

theorem Summary.ofJson?_toJson (s : Summary) : ofJson? s.toJson = some s := rfl

theorem Report.mapM_ofJson?_map_toJson (rs : List Report) :
    (rs.map toJson).mapM ofJson? = some rs := by
  induction rs with
  | nil => rfl
  | cons r rs ih => rw [List.map_cons, List.mapM_cons, ofJson?_toJson, ih]; rfl

/-- **A document is read back** as the counts and the reports that it was made of. -/
theorem Report.document?_renderJson (rs : List Report) (s : Summary) :
    document? (renderJson rs s) = some (s, rs) := by
  unfold document? renderJson
  rw [Json.read_pretty]
  have hsummary : (Json.object [("summary".toList, s.toJson),
      ("reports".toList, .array (rs.map toJson))]).member? "summary".toList = some s.toJson := rfl
  have hreports : (Json.object [("summary".toList, s.toJson),
      ("reports".toList, .array (rs.map toJson))]).member? "reports".toList =
        some (.array (rs.map toJson)) := rfl
  simp only [Option.bind_eq_bind, Option.bind_some, hsummary, hreports, Summary.ofJson?_toJson,
    Json.items?, mapM_ofJson?_map_toJson]
  rfl

/-- **JSON output loses nothing.**

* The text is a document whatever the paths and the messages of the reports hold; reading it gives
  the three counts and the same reports in order, each with its file, category, code, message and
  location.
* So other counts or other reports give another text.
* Its lines are those of a value with the two parts, with all strings escaped, and there are no
  control characters in them. -/
theorem Report.renderJson_lossless :
    (∀ (rs : List Report) (s : Summary), document? (renderJson rs s) = some (s, rs)) ∧
      (Function.Injective fun run : List Report × Summary => renderJson run.1 run.2) ∧
      ∀ (rs : List Report) (s : Summary),
        let lines := List.splitOn '\n' (renderJson rs s)
        lines = Json.layout 0 [] [] (.object [
          ("summary".toList, s.toJson), ("reports".toList, .array (rs.map toJson))]) ∧
        Json.ArePlain lines := by
  refine ⟨document?_renderJson, fun run run' h => ?_, fun rs s => ?_⟩
  · have hread := document?_renderJson run.1 run.2
    rw [show renderJson run.1 run.2 = renderJson run'.1 run'.2 from h,
      document?_renderJson] at hread
    obtain ⟨hs, hr⟩ := Prod.mk.inj (Option.some.inj hread)
    exact Prod.ext hr.symm hs.symm
  · intro lines
    have hlines : lines = Json.layout 0 [] [] _ := Json.splitOn_pretty _
    exact ⟨hlines, hlines ▸ Json.arePlain_layout _ 0 (by decide) (by decide)⟩

end ImportLint
