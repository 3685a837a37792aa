import ImportLint.Text

/-!
# Positions

Byte offsets as lines and columns.  Lines count from 1 and end at a line feed; columns count
characters from 0.

* `LineTable.position`: the position of an offset.  Offsets past the end stand for the end,
  offsets inside a character for its first byte.
* `LineTable.lineCount`: one more than the number of line feeds.
-/

namespace ImportLint

/-- The largest number that a line, a column, an offset or a code can be. -/
def wordMax : Nat := 4294967295

structure Position where
  line : Nat
  column : Nat
deriving DecidableEq, Repr, Inhabited

/-- The offsets just behind the line feeds of a text that begins at a given offset. -/
def lineStartsFrom (offset : Nat) : Text → List Nat
  | [] => []
  | c :: cs =>
    let next := offset + c.utf8Size
    if c = '\n' then next :: lineStartsFrom next cs else lineStartsFrom next cs

/-- A text with the offsets at which its lines begin, in increasing order. -/
structure LineTable where
  text : Text
  starts : List Nat
deriving DecidableEq, Repr, Inhabited

namespace LineTable

def ofText (text : Text) : LineTable := ⟨text, 0 :: lineStartsFrom 0 text⟩

def lineCount (t : LineTable) : Nat := t.starts.length

/-- The greatest character boundary at or before an offset. -/
def snap (t : LineTable) (offset : Nat) : Nat :=
  (Text.splitAtByte offset t.text).1.byteLength

/-- The position of a byte offset. -/
def position (t : LineTable) (offset : Nat) : Position :=
  let offset := t.snap offset
  let begun := t.starts.takeWhile (· ≤ offset)
  let start := begun.getLastD 0
  let line := (Text.splitAtByte (offset - start) (Text.splitAtByte start t.text).2).1
  ⟨min begun.length wordMax, min line.length wordMax⟩

end LineTable

end ImportLint
