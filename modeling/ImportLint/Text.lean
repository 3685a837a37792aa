/-!
# Text

File contents, names and specifiers are lists of characters; their sizes and offsets are
counted in UTF-8 bytes.

* `Text.byteLength`: the size of a text.
* `Text.splitAtByte`: a text cut at the last character boundary at or before an offset.
* `Text.trim`: a text without its surrounding white space.
-/

namespace ImportLint

/-- The characters of a file, a name or a message. -/
abbrev Text := List Char

namespace Text

/-- The number of UTF-8 bytes. -/
def byteLength : Text → Nat
  | [] => 0
  | c :: cs => c.utf8Size + byteLength cs

/-- The longest leading part of at most `offset` bytes, and the rest. -/
def splitAtByte (offset : Nat) : Text → Text × Text
  | [] => ([], [])
  | c :: cs =>
    if c.utf8Size ≤ offset then
      let (before, after) := splitAtByte (offset - c.utf8Size) cs
      (c :: before, after)
    else ([], c :: cs)

/-- The shortest leading part of at least `offset` bytes (all of the text if it is shorter),
and the rest. -/
def splitFromByte (offset : Nat) : Text → Text × Text
  | [] => ([], [])
  | c :: cs =>
    if offset = 0 then ([], c :: cs)
    else
      let (before, after) := splitFromByte (offset - c.utf8Size) cs
      (c :: before, after)

/-- The characters with the Unicode property `White_Space`. -/
def isBlank (c : Char) : Bool :=
  let n := c.toNat
  (0x09 ≤ n && n ≤ 0x0D) || n == 0x20 || n == 0x85 || n == 0xA0 || n == 0x1680
    || (0x2000 ≤ n && n ≤ 0x200A) || n == 0x2028 || n == 0x2029 || n == 0x202F
    || n == 0x205F || n == 0x3000

def trimStart (t : Text) : Text := t.dropWhile isBlank

def trimEnd (t : Text) : Text := (t.reverse.dropWhile isBlank).reverse

/-- The text without leading and trailing white space. -/
def trim (t : Text) : Text := trimEnd (trimStart t)

/-- The rest after a leading `start`, if the text begins so. -/
def stripStart (start : Text) (t : Text) : Option Text :=
  match start, t with
  | [], t => some t
  | _ :: _, [] => none
  | s :: ss, c :: cs => if s = c then stripStart ss cs else none

def startsWith (start : Text) (t : Text) : Bool := (stripStart start t).isSome

/-- The part before a trailing `tail`, if the text ends so. -/
def stripEnd (tail : Text) (t : Text) : Option Text :=
  (stripStart tail.reverse t.reverse).map List.reverse

def endsWith (tail : Text) (t : Text) : Bool := (stripEnd tail t).isSome

/-- The parts before and after the first `sep`. -/
def cutAt (sep : Char) : Text → Option (Text × Text)
  | [] => none
  | c :: cs =>
    if c = sep then some ([], cs)
    else (cutAt sep cs).map fun (before, after) => (c :: before, after)

/-- The parts between the occurrences of `sep`; there is one more part than occurrences. -/
def splitOn (sep : Char) : Text → List Text
  | [] => [[]]
  | c :: cs =>
    if c = sep then [] :: splitOn sep cs
    else match splitOn sep cs with
      | [] => [[c]]
      | part :: parts => (c :: part) :: parts

/-- ASCII letters in lower case, all else unchanged. -/
def toAsciiLower (t : Text) : Text := t.map Char.toLower

def toString (t : Text) : String := String.ofList t

end Text

/-- Whether one text comes before another in the order of their code points. -/
def Text.before : Text → Text → Bool
  | [], [] => false
  | [], _ :: _ => true
  | _ :: _, [] => false
  | a :: as, b :: bs => a.toNat < b.toNat || (a == b && Text.before as bs)

end ImportLint
