import ImportLint.Text

/-!
# Command line — arguments

One command, `check`, takes paths and options.  An option and its value are joined by `=` or
stand one after the other, and `--` makes all that follows paths.  Values are looked at once the
next argument is known to be understood.

* `Request.ofArguments`: what the arguments ask for.
* `UsageFault`: why they cannot be understood.
-/

namespace ImportLint.CommandLine

/-- Why arguments cannot be understood. -/
inductive UsageFault where
  | unknownArgument (argument : Text)
  | unknownCommand (name : Text)
  | unexpectedValue (value : Text) (argument : String)
  | missingValue (argument : String)
  | repeated (argument : String)
  | invalidValue (value : Text) (argument reason : String)
  | missingPaths
deriving DecidableEq, Repr, Inhabited

def UsageFault.message : UsageFault → String
  | .unknownArgument argument =>
    "unexpected argument '" ++ String.ofList argument ++ "' found"
  | .unknownCommand name => "unrecognized subcommand '" ++ String.ofList name ++ "'"
  | .unexpectedValue value argument =>
    "unexpected value '" ++ String.ofList value ++ "' for '" ++ argument
      ++ "' found; no more were expected"
  | .missingValue argument =>
    "a value is required for '" ++ argument ++ "' but none was supplied"
  | .repeated argument => "the argument '" ++ argument ++ "' cannot be used multiple times"
  | .invalidValue value argument reason =>
    "invalid value '" ++ String.ofList value ++ "' for '" ++ argument ++ "': " ++ reason
  | .missingPaths => "the following required arguments were not provided:\n  <PATHS>..."

/-- What `check` is told. -/
structure CheckArguments where
  paths : List Text := []
  json : Bool := false
  globalPaths : List Text := []
  libDir : Option Text := none
  ignoreCodes : List Nat := []
deriving DecidableEq, Repr, Inhabited

/-- What help is asked about. -/
inductive HelpTopic where
  | program
  | check
  | help
deriving DecidableEq, Repr, Inhabited

/-- What the arguments ask for. -/
inductive Request where
  | help (topic : HelpTopic)
  /-- Nothing was asked for. -/
  | nothing
  | version
  | check (arguments : CheckArguments)
deriving DecidableEq, Repr, Inhabited

/-! ### Values -/

/-- An argument that takes values. -/
inductive Slot where
  | paths
  | globalPath
  | libDir
  | ignoreCode
deriving DecidableEq, Repr, Inhabited

/-- How an argument is named in messages. -/
def Slot.label : Slot → String
  | .paths => "<PATHS>..."
  | .globalPath => "--global-path <DIR>"
  | .libDir => "--lib-dir <DIR>"
  | .ignoreCode => "--ignore-code <CODE>"

/-- The option with a name. -/
def Slot.ofName (name : Text) : Option Slot :=
  match String.ofList name with
  | "global-path" => some .globalPath
  | "lib-dir" => some .libDir
  | "ignore-code" => some .ignoreCode
  | _ => none

/-- Reads digits on, up to a limit. -/
def readDigits (limit : Nat) (tooFar : String) : Nat → Text → Except String Nat
  | n, [] => .ok n
  | n, c :: cs =>
    if '0' ≤ c && c ≤ '9' then
      let n := n * 10 + (c.toNat - '0'.toNat)
      if n ≤ limit then readDigits limit tooFar n cs else .error tooFar
    else .error "invalid digit found in string"

/-- A whole number of 64 bits. -/
def readNumber (t : Text) : Except String Int :=
  let tooLarge := "number too large to fit in target type"
  let tooSmall := "number too small to fit in target type"
  match t with
  | [] => .error "cannot parse integer from empty string"
  | ['-'] => .error "invalid digit found in string"
  | ['+'] => .error "invalid digit found in string"
  | '-' :: ds => (readDigits (Nat.pow 2 63) tooSmall 0 ds).map fun n => -(n : Int)
  | '+' :: ds => (readDigits (Nat.pow 2 63 - 1) tooLarge 0 ds).map Int.ofNat
  | ds => (readDigits (Nat.pow 2 63 - 1) tooLarge 0 ds).map Int.ofNat

/-- The largest code. -/
def codeLimit : Nat := 4294967295

/-- The code that a value names. -/
def readCode (t : Text) : Except String Nat := do
  let n ← readNumber t
  if 0 ≤ n && n ≤ codeLimit then return n.toNat
  else throw s!"{n} is not in 0..={codeLimit}"

/-- Takes a value for an argument. -/
def CheckArguments.take (a : CheckArguments) (slot : Slot) (value : Text) :
    Except UsageFault CheckArguments :=
  match slot with
  | .ignoreCode =>
    match readCode value with
    | .ok code => .ok { a with ignoreCodes := a.ignoreCodes ++ [code] }
    | .error reason => .error (.invalidValue value slot.label reason)
  | .paths =>
    if value.isEmpty then .error (.missingValue slot.label)
    else .ok { a with paths := a.paths ++ [value] }
  | .globalPath =>
    if value.isEmpty then .error (.missingValue slot.label)
    else .ok { a with globalPaths := a.globalPaths ++ [value] }
  | .libDir =>
    if a.libDir.isSome then .error (.repeated slot.label)
    else if value.isEmpty then .error (.missingValue slot.label)
    else .ok { a with libDir := some value }

/-! ### Reading -/

/-- The state between two arguments: what has been taken, and values that are still to be
taken. -/
structure Reading where
  taken : CheckArguments := {}
  pending : Option (Slot × List Text) := none
deriving DecidableEq, Repr, Inhabited

namespace Reading

/-- Takes the values that are pending. -/
def settle (r : Reading) : Except UsageFault Reading := do
  match r.pending with
  | none => return r
  | some (slot, []) => throw (.missingValue slot.label)
  | some (slot, values) =>
    let taken ← values.foldlM (fun a v => a.take slot v) r.taken
    return { taken }

/-- One more path. -/
def addPath (r : Reading) (path : Text) : Except UsageFault Reading := do
  match r.pending with
  | some (.paths, values) => return { r with pending := some (.paths, values ++ [path]) }
  | _ => return { ← r.settle with pending := some (.paths, [path]) }

/-- The name and the value of an argument such as `--name=value`. -/
def splitOption (t : Text) : Text × Option Text :=
  match Text.cutAt '=' t with
  | some (name, value) => (name, some value)
  | none => (t, none)

/-- Whether a value is still to come for the last option. -/
def awaitsValue (r : Reading) : Bool :=
  match r.pending with
  | some (slot, []) => slot ≠ .paths
  | _ => false

/-- All that follows are paths. -/
def readPaths (r : Reading) : List Text → Except UsageFault Reading
  | [] => r.settle
  | path :: rest => do (← r.addPath path).readPaths rest

/-- Reads the arguments of `check`; without an answer, help is asked for. -/
def read (r : Reading) : List Text → Except UsageFault (Option Reading)
  | [] => r.settle.map some
  | ['-', '-'] :: rest => (r.readPaths rest).map some
  | ('-' :: '-' :: option) :: rest => do
    let (name, value) := splitOption option
    match Slot.ofName name, value with
    | some slot, some value =>
      let r ← r.settle
      read { taken := ← r.taken.take slot value } rest
    | some slot, none => read { ← r.settle with pending := some (slot, []) } rest
    | none, value =>
      if name = "json".toList || name = "help".toList then
        match value with
        | some value => throw (.unexpectedValue value ("--" ++ String.ofList name))
        | none =>
          let r ← r.settle
          if name = "help".toList then return none
          else if r.taken.json then throw (.repeated "--json")
          else read { r with taken := { r.taken with json := true } } rest
      else throw (.unknownArgument ('-' :: '-' :: name))
  | ('-' :: c :: _) :: _ => do
    if c = 'h' then
      let _ ← r.settle
      return none
    else throw (.unknownArgument ['-', c])
  | value :: rest => do
    match r.pending, r.awaitsValue with
    | some (slot, _), true => read { r with pending := some (slot, [value]) } rest
    | _, _ => read (← r.addPath value) rest

end Reading

namespace Request

/-- The command with a name. -/
def topic? (name : Text) : Option HelpTopic :=
  match String.ofList name with
  | "check" => some .check
  | "help" => some .help
  | _ => none

/-- What the arguments of `help` ask for. -/
def helpFor : List Text → Except UsageFault Request
  | [] => .ok (.help .program)
  | name :: rest =>
    match topic? name, rest with
    | none, _ => .error (.unknownCommand name)
    | some topic, [] => .ok (.help topic)
    | some _, next :: _ => .error (.unknownCommand next)

/-- What the arguments of `check` ask for. -/
def checkFor (arguments : List Text) : Except UsageFault Request := do
  match ← Reading.read {} arguments with
  | none => return .help .check
  | some r => if r.taken.paths.isEmpty then throw .missingPaths else return .check r.taken

/-- What the arguments ask for. -/
def ofArguments : List Text → Except UsageFault Request
  | [] => .ok .nothing
  | ['-', '-'] :: rest =>
    match rest with
    | [] => .ok .nothing
    | name :: _ =>
      match topic? name with
      | some _ => .error (.unknownArgument name)
      | none => .error (.unknownCommand name)
  | ('-' :: '-' :: option) :: _ =>
    let (name, value) := Reading.splitOption option
    match String.ofList name, value with
    | "help", none => .ok (.help .program)
    | "version", none => .ok .version
    | "help", some value => .error (.unexpectedValue value "--help")
    | "version", some value => .error (.unexpectedValue value "--version")
    | _, _ => .error (.unknownArgument ('-' :: '-' :: name))
  | ('-' :: 'h' :: _) :: _ => .ok (.help .program)
  | ('-' :: 'V' :: _) :: _ => .ok .version
  | ('-' :: c :: _) :: _ => .error (.unknownArgument ['-', c])
  | name :: rest =>
    match topic? name with
    | some .check => checkFor rest
    | some _ => helpFor rest
    | none => .error (.unknownCommand name)

end Request

end ImportLint.CommandLine
