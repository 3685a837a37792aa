import ImportLint.Session.Engine

/-!
# Sessions — one for each project

A session joins the host of a project and an engine.  Sessions are made at the first request
for a config and kept; a config that cannot be loaded leaves nothing behind.

* `Session.diagnostics`: the faults of a file, found once and kept.
* `Session.release`: forgets what is known about a file.
* `Registry.session`: the session of a config.
-/

namespace ImportLint

structure Session (σ : Type) where
  configPath : Path
  host : Host
  engine : σ
  /-- The faults found so far, by file. -/
  found : Table (List Component) (Shared (List Diagnostic)) := {}
  /-- The number of lists of faults made so far. -/
  made : Nat := 0

namespace Session

variable {σ ω : Type} (e : Engine σ ω)

/-- The faults of a file.  They are kept, a failure is not. -/
def diagnostics (view : FileView) (file : Path) (s : Session σ) (shared : ω) :
    Except LintError (Shared (List Diagnostic)) × Session σ × ω :=
  let key := file.normalize
  match s.found.get? key.components with
  | some known => (.ok known, s, shared)
  | none =>
    match e.diagnostics view key (s.host, s.engine, shared) with
    | (.error f, host, engine, shared) => (.error f, { s with host, engine }, shared)
    | (.ok fresh, host, engine, shared) =>
      let kept : Shared (List Diagnostic) := ⟨s.made, fresh⟩
      (.ok kept,
        { s with
          host
          engine
          found := s.found.insert key.components kept
          made := s.made + 1 },
        shared)

/-- Forgets the snapshot and the faults of a file; tells whether there was a snapshot. -/
def release (file : Path) (s : Session σ) (shared : ω) : Bool × Session σ × ω :=
  let key := file.normalize
  let (engine, shared) := e.release key (s.engine, shared)
  let (had, host) := (Host.releaseSnapshot key).run s.host
  (had, { s with host, engine, found := s.found.erase key.components }, shared)

end Session

/-- The sessions of a run. -/
structure Registry (σ : Type) where
  options : LintOptions
  /-- The global directories, for every session. -/
  globals : List Path
  /-- All sessions, in the order in which they were made. -/
  sessions : Array (Session σ) := #[]
  /-- The number of the session of each config. -/
  byConfig : Table (List Component) Nat := {}

namespace Registry

variable {σ ω : Type} (e : Engine σ ω)

def new (options : LintOptions) : Registry σ where
  options
  globals := options.globalSearchPaths

def size (r : Registry σ) : Nat := r.byConfig.size

/-- A session that is made for a config. -/
def makeSession (view : FileView) (r : Registry σ) (key projectRoot : Path) (shared : ω) :
    Except LintError (Session σ) × ω :=
  match ProjectConfig.load view key with
  | .error f => (.error f, shared)
  | .ok config =>
    let libDir := r.options.libDir.or e.bundledLibDir
    let host := Host.new view config projectRoot.normalize r.globals libDir
    match e.create host shared with
    | (.error f, shared) => (.error f, shared)
    | (.ok engine, shared) => (.ok { configPath := key, host, engine }, shared)

/-- The number of the session of a config, which is made at the first request. -/
def session (view : FileView) (configPath projectRoot : Path) (r : Registry σ) (shared : ω) :
    Except LintError Nat × Registry σ × ω :=
  let key := configPath.normalize
  match r.byConfig.get? key.components with
  | some id => (.ok id, r, shared)
  | none =>
    match makeSession e view r key projectRoot shared with
    | (.error f, shared) => (.error f, r, shared)
    | (.ok made, shared) =>
      let id := r.sessions.size
      (.ok id,
        { r with
          sessions := r.sessions.push made
          byConfig := r.byConfig.insert key.components id },
        shared)

end Registry

end ImportLint
