import Rulebook.Toml.Blank

/-!
# Quoted texts of a document

* `basicText`, `literalText`: texts on one line, with and without escapes.
* `basicBlock`, `literalBlock`: texts on several lines, with and without escapes. A line end right
  behind the opening quotes does not count.
* `quotedText`: any of them.
* `writtenKey`: a name as it is written in a document.
-/

namespace Rulebook.Toml

open Reader

/-- The characters that stand for themselves in a text with escapes. -/
def isBasic (c : Char) : Bool := isPlain c && c != '"' && c != '\\'

/-- The characters that stand for themselves in a text without escapes. -/
def isLiteral (c : Char) : Bool := isPlain c && c != '\''

/-- The digits of hexadecimal numbers. -/
def isHexDigit (c : Char) : Bool :=
  c.isDigit || ('a' ≤ c && c ≤ 'f') || ('A' ≤ c && c ≤ 'F')

/-- The number that a digit stands for. -/
def digitValue (c : Char) : Nat :=
  if c.isDigit then c.toNat - '0'.toNat
  else if 'a' ≤ c then c.toNat - 'a'.toNat + 10
  else c.toNat - 'A'.toNat + 10

/-- The number that some digits stand for. The first of them weighs most. -/
def digitsValue (base : Nat) (digits : List Char) : Nat :=
  digits.foldl (fun n d => n * base + digitValue d) 0

/-- A character as its code point in a number of hexadecimal digits. -/
def codePoint (size : Nat) : Reader Char :=
  label s!"unicode {size}-digit hex code" <| commit <|
    (exactly size isHexDigit).check fun digits =>
      let n := digitsValue 16 digits
      if n.isValidChar then .ok (Char.ofNat n) else .error (some .outOfRange)

/-- The letters that may follow a backslash. -/
def escapeLetters : List String := ["b", "f", "n", "r", "t", "u", "U", "\\", "\""]

/-- The complaint about another character behind a backslash. It is about the place behind that
character, or about a character of several bytes itself. -/
def unknownEscape (letter : Char) : Reader Char :=
  label "escape sequence" <| expecting (escapeLetters.map .exact) fun c =>
    .broken { pos := if letter.utf8Size = 1 then c.pos else c.pos - letter.utf8Size }

/-- An escaped character. -/
def escape : Reader Char := do
  let _ ← char '\\'
  match ← oneOf fun _ => true with
  | 'b' => return '\x08'
  | 'f' => return '\x0c'
  | 'n' => return '\n'
  | 'r' => return '\r'
  | 't' => return '\t'
  | 'u' => codePoint 4
  | 'U' => codePoint 8
  | '\\' => return '\\'
  | '"' => return '"'
  | c => unknownEscape c

/-- A run of characters that stand for themselves, or an escape. -/
def basicPiece : Reader (List Char) := someOf isBasic <|> (do return [← escape])

/-- A text on one line with escapes. -/
def basicText : Reader (List Char) := do
  let _ ← char '"'
  let pieces ← basicPiece.many
  let _ ← label "basic string" (char '"').commit
  return pieces.flatten

/-- A text on one line without escapes. -/
def literalText : Reader (List Char) := label "literal string" do
  let _ ← char '\''
  let text ← charsOf isLiteral
  let _ ← (char '\'').commit
  return text

/-- A line end that is escaped, with the blanks around it. It stands for nothing. -/
def escapedNewline : Reader Unit := do
  let _ ← char '\\'
  blanks
  newline
  let _ ← (newline <|> (do let _ ← someOf isBlank)).many

/-- A piece of a text on several lines with escapes, which is not a quote. -/
def basicBlockPiece : Reader (List Char) :=
  someOf isBasic <|> (do let _ ← escapedNewline.many1; return []) <|> (do return [← escape]) <|>
    (do newline; return ['\n'])

/-- A piece of a text on several lines without escapes, which is not a quote. -/
def literalBlockPiece : Reader (List Char) := someOf isLiteral <|> (do newline; return ['\n'])

/-- Two quotes or one in front of something else, which is not read. -/
def looseQuotes {α : Type} (quote : Char) (after : Reader α) : Reader (List Char) :=
  (do let quotes ← exactly 2 (· == quote); let _ ← after.peek; return quotes) <|>
    (do let quotes ← exactly 1 (· == quote); let _ ← after.peek; return quotes)

/-- A text on several lines: pieces, of which quotes are some as long as there are not three of
them in a row. One or two quotes may also stand right before the closing ones. `more` reads the
pieces behind loose quotes. -/
def block (name : String) (quote : Char) (piece : Reader (List Char))
    (more : Reader (List (List Char))) : Reader (List Char) :=
  label name do
    let delimiter := exactly 3 (· == quote)
    let _ ← delimiter
    let _ ← newline.optional
    let first ← piece.many
    let rest ← (do return (← looseQuotes quote (oneOf (· != quote))) ++ (← more).flatten).many
    let last ← (looseQuotes quote delimiter).optional
    let _ ← delimiter.commit
    return first.flatten ++ rest.flatten ++ last.getD []

/-- A text on several lines with escapes. Loose quotes are read even where no piece follows, and a
complaint is then about the place behind them. -/
def basicBlock : Reader (List Char) :=
  block "multiline basic string" '"' basicBlockPiece basicBlockPiece.many

/-- A text on several lines without escapes. -/
def literalBlock : Reader (List Char) :=
  block "multiline literal string" '\'' literalBlockPiece literalBlockPiece.many1

/-- A quoted text of any kind. -/
def quotedText : Reader (List Char) := basicBlock <|> basicText <|> literalBlock <|> literalText

/-- The characters of names without quotes. -/
def isBare (c : Char) : Bool := c.isAlphanum || c == '_' || c == '-'

/-- A character between double quotes. -/
def escaped (c : Char) : List Char :=
  match c with
  | '\x08' => ['\\', 'b']
  | '\t' => ['\\', 't']
  | '\n' => ['\\', 'n']
  | '\x0c' => ['\\', 'f']
  | '\r' => ['\\', 'r']
  | '"' => ['\\', '"']
  | '\\' => ['\\', '\\']
  | c =>
    if isPlain c then [c]
    else ['\\', 'u'] ++ ((Nat.toDigits 16 c.toNat).map Char.toUpper).leftpad 4 '0'

/-- A name as a document has to write it: bare if it can, or else in double quotes, or in single
ones where that saves escapes. -/
def writtenKey (name : String) : String :=
  let cs := name.toList
  if !cs.isEmpty && cs.all isBare then name
  else if cs.any (fun c => c == '"' || c == '\\') && cs.all isLiteral then
    String.ofList ('\'' :: cs ++ ['\''])
  else String.ofList ('"' :: cs.flatMap escaped ++ ['"'])

end Rulebook.Toml
