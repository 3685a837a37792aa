import ImportLint.Glob.Pattern

/-!
# Globs — matching

A pattern is matched against the UTF-8 bytes of a path.

* `Glob.rests`: what can be left of some bytes after a list of tokens.
* `Glob.covers`: the tokens cover a path to its end.
-/

namespace ImportLint.Glob

abbrev Bytes := List UInt8

/-- The bytes of a text. -/
def bytesOf (t : Text) : Bytes := t.flatMap String.utf8EncodeChar

def slash : UInt8 := 47

/-- The bytes after each slash. -/
def afterSlashes : Bytes → List Bytes
  | [] => []
  | b :: bs => if b = slash then bs :: afterSlashes bs else afterSlashes bs

/-- What is left after any number of bytes. -/
def afterAny : Bytes → List Bytes
  | [] => [[]]
  | b :: bs => (b :: bs) :: afterAny bs

/-- What is left after any number of bytes that are no slashes. -/
def afterRun : Bytes → List Bytes
  | [] => [[]]
  | b :: bs => (b :: bs) :: if b = slash then [] else afterRun bs

/-- The single bytes and the ranges of bytes that a range of characters stands for: the bytes
of both characters, and all between the last byte of the one and the first of the other. -/
def rangeHolds (range : Char × Char) (b : UInt8) : Bool :=
  let low := bytesOf [range.1]
  let high := bytesOf [range.2]
  if range.1 = range.2 then low.contains b
  else
    let start := low.getLast?.getD 0
    let stop := high.head?.getD 0
    low.contains b || high.contains b || (start ≤ b && b ≤ stop)

mutual

/-- A token that stands for no bytes at all. -/
def isVoid : Token → Bool
  | .alternates branches => areVoid branches
  | _ => false

/-- Branches of void tokens only. -/
def areVoid : List (List Token) → Bool
  | [] => true
  | ts :: branches => allVoid ts && areVoid branches

def allVoid : List Token → Bool
  | [] => true
  | t :: ts => isVoid t && allVoid ts

end

mutual

/-- What can be left after one token. -/
def tokenRests (t : Token) (bs : Bytes) : List Bytes :=
  match t with
  | .literal c =>
    let cs := bytesOf [c]
    if cs.isPrefixOf bs then [bs.drop cs.length] else []
  | .anyByte =>
    match bs with
    | [] => []
    | b :: bs => if b = slash then [] else [bs]
  | .anyRun => afterRun bs
  | .leadingDirectories => bs :: afterSlashes bs
  | .trailingDirectories =>
    match bs with
    | [] => []
    | b :: bs => if b = slash then afterAny bs else []
  | .innerDirectories =>
    match bs with
    | [] => []
    | b :: bs => if b = slash then bs :: afterSlashes bs else []
  | .byteClass negated ranges =>
    match bs with
    | [] => []
    | b :: bs => if ranges.any (rangeHolds · b) != negated then [bs] else []
  | .alternates branches =>
    if areVoid branches then [bs] else branchRests branches bs

/-- What can be left after a list of tokens. -/
def rests (ts : List Token) (bs : Bytes) : List Bytes :=
  match ts with
  | [] => [bs]
  | t :: ts => ((tokenRests t bs).flatMap (rests ts)).eraseDups

/-- What can be left after one of the branches.  A void branch is no choice. -/
def branchRests (branches : List (List Token)) (bs : Bytes) : List Bytes :=
  match branches with
  | [] => []
  | ts :: branches =>
    (if allVoid ts then [] else rests ts bs) ++ branchRests branches bs

end

/-- Whether the tokens match a path. -/
def covers (ts : List Token) (path : Text) : Bool :=
  match ts with
  | [.leadingDirectories] => true
  | ts => (rests ts (bytesOf path)).any List.isEmpty

end ImportLint.Glob
