import ImportLint.Text

/-!
# Projects — language levels

The level that a project compiles to selects its default library.

* `ScriptTarget.parse`: the level that a name stands for, in any case of its letters.
* `ScriptTarget.defaultLibrary`: the file that declares the library of a level.
-/

namespace ImportLint

inductive ScriptTarget where
  | es3
  | es5
  | es2015
  | es2016
  | es2017
  | es2018
  | es2019
  | es2020
  | es2021
  | es2022
  | esNext
deriving DecidableEq, Repr

namespace ScriptTarget

/-- The level of a project that names none. -/
instance : Inhabited ScriptTarget := ⟨es5⟩

/-- The level with a name.  Blanks around it do not count, and `ES6` is `ES2015`. -/
def parse (raw : Text) : Option ScriptTarget :=
  match String.ofList (Text.toAsciiLower (Text.trim raw)) with
  | "es3" => some es3
  | "es5" => some es5
  | "es6" => some es2015
  | "es2015" => some es2015
  | "es2016" => some es2016
  | "es2017" => some es2017
  | "es2018" => some es2018
  | "es2019" => some es2019
  | "es2020" => some es2020
  | "es2021" => some es2021
  | "es2022" => some es2022
  | "esnext" => some esNext
  | _ => none

/-- The name of a level. -/
def label : ScriptTarget → String
  | es3 => "Es3"
  | es5 => "Es5"
  | es2015 => "Es2015"
  | es2016 => "Es2016"
  | es2017 => "Es2017"
  | es2018 => "Es2018"
  | es2019 => "Es2019"
  | es2020 => "Es2020"
  | es2021 => "Es2021"
  | es2022 => "Es2022"
  | esNext => "EsNext"

/-- The file that declares the library of a level. -/
def defaultLibrary : ScriptTarget → String
  | es3 | es5 => "lib.d.ts"
  | es2015 => "lib.es6.d.ts"
  | es2016 => "lib.es2016.full.d.ts"
  | es2017 => "lib.es2017.full.d.ts"
  | es2018 => "lib.es2018.full.d.ts"
  | es2019 => "lib.es2019.full.d.ts"
  | es2020 => "lib.es2020.full.d.ts"
  | es2021 => "lib.es2021.full.d.ts"
  | es2022 => "lib.es2022.full.d.ts"
  | esNext => "lib.esnext.full.d.ts"

end ScriptTarget

end ImportLint
