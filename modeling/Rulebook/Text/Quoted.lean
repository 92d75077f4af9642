import Rulebook.Text.Hidden

/-!
# Quoted texts

A text between double quotes, for messages. Quotes and backslashes in it are escaped, and so is
everything that could not be seen.

* `quoteChar`: a character as it stands between the quotes.
* `quoted`: a text with its quotes.
-/

namespace Rulebook

/-- A code point in braces, in hexadecimal digits. -/
def codePoint (c : Char) : List Char :=
  ['\\', 'u', '{'] ++ Nat.toDigits 16 c.toNat ++ ['}']

/-- A character as it stands between double quotes. -/
def quoteChar (c : Char) : List Char :=
  if c = '\x00' then ['\\', '0']
  else if c = '\t' then ['\\', 't']
  else if c = '\n' then ['\\', 'n']
  else if c = '\r' then ['\\', 'r']
  else if c = '"' || c = '\\' then ['\\', c]
  else if isHidden c then codePoint c
  else [c]

/-- A text between double quotes. -/
def quoted (text : String) : String :=
  String.ofList ('"' :: text.toList.flatMap quoteChar ++ ['"'])

end Rulebook
