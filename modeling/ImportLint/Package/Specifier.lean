import ImportLint.Path.Normal

/-!
# Package specifiers

How a module reference is written and which package it names.

* `Specifier.isPath`: references to a file (`./x`, `../x`, `/x`) against references to a package.
* `Specifier.split`: the package and the file inside it.
* `Specifier.typesPath`: where a package's declarations lie below a type root.
* `Specifier.isBuiltin`: the modules that the runtime itself provides.
* `packageOfPath`: the package that owns a file.
-/

namespace ImportLint

namespace Specifier

/-- Begins with a dot or a slash: the reference is to a file. -/
def isPath (s : Text) : Bool := s.head? == some '.' || s.head? == some '/'

/-- The scheme of the runtime's own modules. -/
def builtinScheme : Text := "node:".toList

/-- The package name and the path inside the package: `@babel/core/lib` is `@babel/core` and
`lib`, `react` is `react` alone. -/
def split (s : Text) : Text × Option Text :=
  match s with
  | '@' :: bare =>
    match Text.cutAt '/' bare with
    | none => (s, none)
    | some (scope, rest) =>
      match Text.cutAt '/' rest with
      | none => (s, none)
      | some (name, sub) => ('@' :: scope ++ '/' :: name, some sub)
  | _ =>
    match Text.cutAt '/' s with
    | some (name, sub) => (name, some sub)
    | none => (s, none)

/-- The path of a package's declarations below a type root; the scope becomes part of the
name: `@scope/name/sub` lies at `scope__name/sub`. -/
def typesPath (s : Text) : Text :=
  let (name, sub) := split s
  let mangled := match name with
    | '@' :: bare =>
      match Text.cutAt '/' bare with
      | some (scope, rest) => scope ++ '_' :: '_' :: rest
      | none => bare
    | _ => name
  match sub with
  | some sub => mangled ++ '/' :: sub
  | none => mangled

/-- The modules that the runtime provides under their bare names. -/
def builtins : List Text := [
  "assert", "async_hooks", "buffer", "child_process", "cluster", "console", "constants",
  "crypto", "dgram", "diagnostics_channel", "dns", "domain", "events", "fs", "http", "http2",
  "https", "inspector", "module", "net", "os", "path", "perf_hooks", "process", "punycode",
  "querystring", "readline", "repl", "stream", "string_decoder", "sys", "timers", "tls",
  "trace_events", "tty", "url", "util", "v8", "vm", "wasi", "worker_threads", "zlib"
].map String.toList

/-- Names a module of the runtime, which no file has to declare.  The test runner's module has
a name under the scheme only. -/
def isBuiltin (s : Text) : Bool :=
  match Text.stripStart builtinScheme s with
  | some bare => builtins.contains (split bare).1 || (split bare).1 == "test".toList
  | none => builtins.contains (split s).1

end Specifier

/-- The folder that holds the packages a directory depends on. -/
def dependencyFolder : Text := "node_modules".toList

/-- The package that owns a file: the name below the innermost dependency folder. -/
def packageOfPath (p : Path) : Option Text :=
  let names := p.components.map Component.chars
  let below := (names.reverse.takeWhile (· ≠ dependencyFolder)).reverse
  if below.length = names.length then none
  else match below with
    | [] => none
    | first :: rest =>
      match first.head? with
      | some '.' => none
      | some '@' => rest.head?.map fun name => first ++ '/' :: name
      | _ => some first

end ImportLint
