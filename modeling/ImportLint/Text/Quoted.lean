import ImportLint.Text
import ImportLint.Unicode.Classes

/-!
# Text — quotations

Texts as errors show them: in quotes, with escapes for what would not show.

* `Text.quoted`: a text in double quotes.
* `Text.quotedChar`: a character in single quotes.
-/

namespace ImportLint.Text

/-- A character inside quotes of one kind. -/
def shownIn (quote c : Char) : Text :=
  if c = quote || c = '\\' then ['\\', c]
  else match c with
    | '\n' => ['\\', 'n']
    | '\r' => ['\\', 'r']
    | '\t' => ['\\', 't']
    | c =>
      if c.toNat = 0 then ['\\', '0']
      else if Unicode.isHidden c then ['\\', 'u', '\x7b'] ++ Nat.toDigits 16 c.toNat ++ ['\x7d']
      else [c]

/-- A text in double quotes. -/
def quoted (t : Text) : Text := '"' :: t.flatMap (shownIn '"') ++ ['"']

/-- A character in single quotes. -/
def quotedChar (c : Char) : Text := '\'' :: shownIn '\'' c ++ ['\'']

end ImportLint.Text
