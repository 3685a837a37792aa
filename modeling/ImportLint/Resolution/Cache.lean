import ImportLint.Resolution.Resolver

/-!
# Resolution — answers kept

A session asks for the same references again and again.  A reference to a file is known by the
path it leads to, a reference to a package by the directory it is written in.

* `CacheKey.new`: the key of a reference.
* `ResolutionCache.getOrResolve`: the kept answer, or a new one.  That nothing was found is
  kept too; an error is not.
-/

namespace ImportLint

/-- What two references must share to have one answer. -/
inductive CacheKey where
  /-- The normalized path that a file reference leads to. -/
  | target (path : Path)
  | bare (directory : Path) (specifier : Text)
deriving DecidableEq, Repr, Inhabited

namespace CacheKey

def new (directory : Path) (specifier : Text) : CacheKey :=
  if Specifier.isPath specifier then .target (directory.join ⟨specifier⟩).normalize
  else .bare directory specifier

/-- A key by which equal keys can be told: paths as their components. -/
def identity : CacheKey → List Component × Option Text
  | .target path => (path.components, none)
  | .bare directory specifier => (directory.components, some specifier)

end CacheKey

/-- The answers of a session, and how often they were asked for. -/
structure ResolutionCache where
  entries : Table (List Component × Option Text) (Option (Shared ResolvedModule)) := {}
  hits : Nat := 0
  misses : Nat := 0

namespace ResolutionCache

instance : Inhabited ResolutionCache := ⟨{}⟩

def size (c : ResolutionCache) : Nat := c.entries.size

def isEmpty (c : ResolutionCache) : Bool := c.entries.isEmpty

/-- The kept answer for a key, if there is one. -/
def get? (c : ResolutionCache) (key : CacheKey) : Option (Option (Shared ResolvedModule)) :=
  c.entries.get? key.identity

/-- Counts a request that a kept answer served. -/
def countHit (c : ResolutionCache) : ResolutionCache := { c with hits := c.hits + 1 }

/-- Counts a request that had to be resolved. -/
def countMiss (c : ResolutionCache) : ResolutionCache := { c with misses := c.misses + 1 }

/-- Keeps an answer; a module found becomes an entry of its own. -/
def keep (c : ResolutionCache) (key : CacheKey) (answer : Option ResolvedModule) :
    Option (Shared ResolvedModule) × ResolutionCache :=
  let shared := answer.map fun m => ⟨c.entries.size, m⟩
  (shared, { c with entries := c.entries.insert key.identity shared })

/-- The kept answer for a key; without one, what `resolve` answers in its state, which is kept
unless it is an error. -/
def getOrResolve {σ : Type} (c : ResolutionCache) (key : CacheKey) (state : σ)
    (resolve : σ → Except LintError (Option ResolvedModule) × σ) :
    Except LintError (Option (Shared ResolvedModule)) × ResolutionCache × σ :=
  match c.get? key with
  | some known => (.ok known, c.countHit, state)
  | none =>
    match resolve state with
    | (.error e, state) => (.error e, c.countMiss, state)
    | (.ok answer, state) =>
      let (shared, c) := c.countMiss.keep key answer
      (.ok shared, c, state)

end ResolutionCache

end ImportLint
