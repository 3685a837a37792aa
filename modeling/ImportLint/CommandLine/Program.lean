import ImportLint.Checking.ImportEngine
import ImportLint.CommandLine.Arguments
import ImportLint.Lint.Linter
import ImportLint.Lint.Targets
import ImportLint.Report.Render

/-!
# Command line — the program

* `CommandLine.check`: the check of files, with the directory of the program in view.
* `CommandLine.run`: what the program prints and how it ends, given a disk, a working directory
  and its arguments.
-/

namespace ImportLint.CommandLine

/-- How a run of the program ends. -/
structure Outcome where
  exitCode : Nat
  output : String := ""
  errors : String := ""
deriving DecidableEq, Repr, Inhabited

def versionLine : String := "typelint 0.1.0\n"

def summaryOfProgram : String := "Type-aware lint pass for TypeScript projects"

def helpText : HelpTopic → String
  | .program =>
    summaryOfProgram ++ "\n\n" ++
    "Usage: typelint <COMMAND>\n\n" ++
    "Commands:\n" ++
    "  check  Check files and directories against their enclosing tsconfig.json\n" ++
    "  help   Print this message or the help of the given subcommand(s)\n\n" ++
    "Options:\n" ++
    "  -h, --help     Print help\n" ++
    "  -V, --version  Print version\n"
  | .check =>
    "Check files and directories against their enclosing tsconfig.json\n\n" ++
    "Usage: typelint check [OPTIONS] <PATHS>...\n\n" ++
    "Arguments:\n" ++
    "  <PATHS>...  Files or directories to check\n\n" ++
    "Options:\n" ++
    "      --json                Output machine-readable JSON\n" ++
    "      --global-path <DIR>   Extra global library directory searched after project-local ones\n" ++
    "      --lib-dir <DIR>       Directory holding the default library declarations (lib.d.ts etc.)\n" ++
    "      --ignore-code <CODE>  Drop diagnostics with this code\n" ++
    "  -h, --help                Print help\n"
  | .help =>
    "Print this message or the help of the given subcommand(s)\n\n" ++
    "Usage: typelint help [COMMAND]...\n\n" ++
    "Arguments:\n" ++
    "  [COMMAND]...  Print help for the subcommand(s)\n"

/-- An end after which nothing was checked. -/
def failed (message : String) (advice : Option String) : Outcome where
  exitCode := 2
  errors := "error: " ++ message ++ "\n" ++
    match advice with
    | some hint => "hint: " ++ hint ++ "\n"
    | none => ""

/-- The options of a check by a program that lies in a directory, if it is known in which. -/
def CheckArguments.options (a : CheckArguments) (nodePath : Option Text) (toolDir : Option Path) :
    LintOptions :=
  LintOptions.withNodePath
    { globalPaths := a.globalPaths.map Path.mk
      toolDir
      libDir := a.libDir.map Path.mk
      ignoreCodes := a.ignoreCodes }
    nodePath

/-- Checks files and prints the reports.  Every report can be written as JSON, so that nothing is
left to fail once the files are known: what JSON cannot hold is a path that is not made of
characters, and all paths here are. -/
def check (disk : Disk) (cwd : Path) (nodePath : Option Text) (a : CheckArguments)
    (toolDir : Option Path) : Outcome :=
  match lintTargets disk cwd (a.paths.map Path.mk) with
  | .error f => failed f.message f.hint
  | .ok files =>
    let linter : Linter ImportCheck.State Unit := .new (a.options nodePath toolDir) ()
    let (reports, _) := linter.lintFiles (importEngine none) (disk.view (some cwd)) files
    let summary := Summary.ofReports files.length reports
    { exitCode := if summary.errors > 0 then 1 else 0
      output :=
        if a.json then String.ofList (Report.renderJson reports summary) ++ "\n"
        else Report.renderLines reports summary cwd }

/-- One run of the program, which lies in `toolDir`, or it is not known where. -/
def run (disk : Disk) (cwd : Path) (nodePath : Option Text) (arguments : List Text)
    (toolDir : Option Path := none) : Outcome :=
  match Request.ofArguments arguments with
  | .error fault => failed fault.message none
  | .ok (.help topic) => { exitCode := 0, output := helpText topic }
  | .ok .nothing => { exitCode := 2, errors := helpText .program }
  | .ok .version => { exitCode := 0, output := versionLine }
  | .ok (.check a) => check disk cwd nodePath a toolDir

end ImportLint.CommandLine
