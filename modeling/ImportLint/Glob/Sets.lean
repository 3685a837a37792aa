import ImportLint.Glob.Rules

/-!
# Globs — sets of rules

The patterns of a list of rules are compiled together into one automaton.  Some are left out:
plain texts and extensions are looked up in tables, and a pattern that ends with an extension has
an automaton of its own.  A compiler bounds the size of its automata, and so a set can be refused
although each of its patterns can be read.

* `Glob.isTabled`, `Glob.endsWithExtension`: patterns that are not compiled with the others.
* `Glob.statesOf`: the states that an automaton needs for a pattern.
* `SetCompiler`: which sets a compiler refuses.
* `SetCompiler.standard`: the usual bound.
-/

namespace ImportLint

namespace Glob

def isLiteral : Token → Bool
  | .literal _ => true
  | _ => false

/-- A pattern that is looked up in a table: a plain text, by itself or at the end of a path, or an
extension of any file. -/
def isTabled : List Token → Bool
  | .leadingDirectories :: .anyRun :: .literal '.' :: ts =>
    ts.all fun
      | .literal c => c != '.' && c != '/'
      | _ => false
  | .leadingDirectories :: ts => !ts.isEmpty && ts.all isLiteral
  | ts => ts.all isLiteral

/-- A pattern that ends with a dot and some text in the last segment. -/
def endsWithExtension (ts : List Token) : Bool :=
  match ts.reverse.dropWhile fun
    | .literal c => c != '.' && c != '/'
    | _ => false with
  | .literal '.' :: _ => true
  | _ => false

mutual

/-- The states that an automaton needs for a token at least: one for each byte of a character, and
one for anything else. -/
def tokenStates : Token → Nat
  | .literal c => c.utf8Size
  | .alternates branches => statesOfAll branches
  | _ => 1

/-- Those for a pattern. -/
def statesOf : List Token → Nat
  | [] => 0
  | t :: ts => tokenStates t + statesOf ts

/-- Those for some patterns. -/
def statesOfAll : List (List Token) → Nat
  | [] => 0
  | ts :: branches => statesOf ts + statesOfAll branches

end

end Glob

/-- A compiler for sets of rules. -/
structure SetCompiler where
  /-- Why a set of rules cannot be compiled; no reason if it can. -/
  refusal : List GlobRule → Option String

namespace SetCompiler

/-- The bytes that one state takes. -/
def stateSize : Nat := 32

/-- The bytes that one automaton may take. -/
def sizeLimit : Nat := 10 * 1024 * 1024

/-- The patterns that one automaton is made for, of all rules. -/
def automata (rules : List GlobRule) : List (List (List Glob.Token)) :=
  let (alone, together) := ((rules.map GlobRule.tokens).filter (!Glob.isTabled ·)).partition
    Glob.endsWithExtension
  together :: alone.map ([·])

/-- The compiler with the usual bound on the size of an automaton.  What an automaton needs is
estimated from below, and how deeply alternatives stand in each other is not bounded. -/
def standard : SetCompiler where
  refusal rules :=
    if (automata rules).any fun patterns => sizeLimit < stateSize * Glob.statesOfAll patterns then
      some "error building NFA"
    else none

end SetCompiler

end ImportLint
