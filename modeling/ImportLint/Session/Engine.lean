import ImportLint.Report.Diagnostic
import ImportLint.Session.Host

/-!
# Sessions — checking engines

An engine finds faults in one file at a time and asks a host about everything else.

* `Engine`: how engines of one kind are made and asked.  `σ` is what one engine remembers, and
  `ω` what all engines of the kind share.
-/

namespace ImportLint

structure Engine (σ ω : Type) where
  /-- Where the libraries that come with the engine lie. -/
  bundledLibDir : Option Path
  /-- Makes the engine of a new session. -/
  create : Host → ω → Except LintError σ × ω
  /-- The faults of a file. -/
  diagnostics : FileView → Path → Host × σ × ω → Except LintError (List Diagnostic) × Host × σ × ω
  /-- Forgets a file whose snapshot is dropped. -/
  release : Path → σ × ω → σ × ω

end ImportLint
