import Rulebook.Formula.Basic
import Rulebook.Text.Span

/-!
# Tokens of a formula

A formula is cut into tokens from the left, each as long as it can be. Spaces, tabs and line ends
between tokens are skipped.

* `Token`: numbers, symbols, `d` and the operators. What is none of these stays as a token of its
  own, so that the grammar can point at it.
* `Token.continues`: which characters a token goes on with.
* `Token.scan`: the tokens of a text with their spans.
-/

namespace Rulebook

/-- A token of a formula. -/
inductive Token where
  | int (n : UInt32)
  | symbol (name : String)
  /-- The `d` of a roll. -/
  | die
  | plus
  | minus
  | times
  /-- A text that is no token: one character, or a number that does not fit in 32 bits. -/
  | unknown (text : String)
  deriving DecidableEq, Repr

namespace Token

/-- Spaces, tabs and line ends may stand between two tokens. -/
def isSpacing (c : Char) : Bool := c == ' ' || c == '\t' || c == '\n' || c == '\r'

/-- Letters, digits and `_` that a symbol goes on with. -/
def isSymbolPart (c : Char) : Bool := c.isUpper || c.isDigit || c == '_'

/-- Which characters a token goes on with, by its first character: a number with digits, a symbol
with upper-case letters, digits and `_`. Every other token is one character. -/
def continues (c : Char) : Char → Bool :=
  if c.isDigit then Char.isDigit else if c.isUpper then isSymbolPart else fun _ => false

/-- A number, or an unknown token if it does not fit in 32 bits. -/
def ofDigits (digits : List Char) : Token :=
  let n := Nat.ofDigitChars 10 digits 0
  if n < UInt32.size then int (UInt32.ofNat n) else unknown (String.ofList digits)

/-- The token that a piece of text is. -/
def ofPiece : List Char → Token
  | ['d'] => die
  | ['+'] => plus
  | ['-'] => minus
  | ['×'] | ['x'] | ['*'] => times
  | piece =>
    match piece.head? with
    | none => unknown ""
    | some c =>
      if c.isDigit then ofDigits piece
      else if c.isUpper then symbol (String.ofList piece)
      else unknown (String.ofList piece)

/-- The tokens of a text that starts at a position. -/
def scanFrom (pos : Nat) : List Char → List (Spanned Token)
  | [] => []
  | c :: cs =>
    if isSpacing c then scanFrom (pos + c.utf8Size) cs
    else
      let piece := c :: cs.takeWhile (continues c)
      ⟨ofPiece piece, .ofPiece pos piece⟩ ::
        scanFrom (pos + byteLength piece) (cs.dropWhile (continues c))
termination_by cs => cs.length
decreasing_by
  · simp
  · have := (List.dropWhile_sublist (continues c) (l := cs)).length_le
    simp only [List.length_cons]
    omega

/-- The tokens of a text. -/
def scan (text : List Char) : List (Spanned Token) := scanFrom 0 text

/-- The sign that a token is. -/
def sign? : Token → Option Sign
  | plus => some .plus
  | minus => some .minus
  | _ => none

/-- A token as it is named in a message. -/
def describe : Token → String
  | int n => s!"number {n.toNat}"
  | symbol name => s!"symbol '{name}'"
  | die => "'d'"
  | plus => "'+'"
  | minus => "'-'"
  | times => "'×'"
  | unknown text => s!"'{text}'"

end Token

end Rulebook
