import Rulebook.Formula.Basic
import Rulebook.Formula.Token
import Rulebook.ParseError
import Rulebook.Text.Blank

/-!
# Reading formulas

```text
formula := term (('+' | '-') term)*
term    := roll | number | symbol
roll    := [number] 'd' number [('×' | 'x' | '*') number]
```

Count, `d` and sides of a roll touch each other, and none of count, sides and multiplier is 0.

A longer term is tried before a shorter one. A number stands for itself if no roll starts with it, and
a roll does without a multiplier if none can be read. The `d` or the `×` is left over then, and no
operator stands there, so the formula is refused: by the longer term if that broke off further on, and
else at the token that is left over. An operator that no term follows would be left over like this, in
front of where the term is refused, so that refusal is the one of the formula.

* `Refusal`: why the tokens are no formula, and at which of them.
* `readTerm`, `readTerms`: one term, and the terms up to the end.
* `widen`, `Refusal.toParseError`: the error that a refusal is, in bytes of the text.
* `Formula.parse`: the formula of a text, or the error to report.
-/

namespace Rulebook.Formula

/-- What could have stood in place of a token. -/
inductive Expectation where
  | token (t : Token)
  | ending
  deriving DecidableEq, Repr

/-- An expectation as it is named in a message. -/
def Expectation.describe : Expectation → String
  | token t => t.describe
  | ending => "end of input"

/-- A term whose tokens are in order and that still is none. -/
inductive TermFault where
  | splitCount
  | splitSides
  | zeroCount
  | zeroSides
  | zeroMultiplier
  | unknownSymbol (name : String)
  deriving DecidableEq, Repr

/-- The fault in one line. -/
def TermFault.message : TermFault → String
  | splitCount => "dice count must be written next to 'd'"
  | splitSides => "die size must be written next to 'd'"
  | zeroCount => "dice count must be at least 1"
  | zeroSides => "a die needs at least one side"
  | zeroMultiplier => "multiplier must be at least 1"
  | unknownSymbol name => s!"unknown symbol '{name}'"

/-- Why a list of tokens is no formula. -/
inductive Refusal where
  /-- A token, or the end of the input, that does not fit what stands before it. -/
  | unexpected (found : Option (Spanned Token)) (expected : List Expectation)
  /-- A faulty term and the span of its tokens. -/
  | fault (cause : TermFault) (span : Span)
  deriving DecidableEq, Repr

/-- The refusal of a term that stands in the way of a shorter one. A fault counts where its term
starts, which is not further than the shorter one gets. -/
def Refusal.further? : Refusal → Option Refusal
  | unexpected found expected => some (.unexpected found expected)
  | fault .. => none

/-- A term that was read, the tokens that could have made it longer, the refusal of a longer term that
broke off further on, and the tokens after the term. -/
structure TermReading where
  term : Term
  longer : List Token
  missed : Option Refusal
  rest : List (Spanned Token)
  deriving DecidableEq, Repr

/-- The fault of count, `d` and sides, if there is one. -/
def headFault? (count : Option (Spanned UInt32)) (die : Span) (sides : Spanned UInt32) :
    Option TermFault :=
  if count.any (·.span.stop != die.start) then some .splitCount
  else if die.stop != sides.span.start then some .splitSides
  else if count.any (·.value == 0) then some .zeroCount
  else if sides.value == 0 then some .zeroSides
  else none

/-- The multiplier of a roll, if the tokens go on with one. -/
def readMultiplier (start : Nat) (roll : Roll) :
    List (Spanned Token) → Except Refusal TermReading
  | ⟨.times, _⟩ :: ⟨.int m, s⟩ :: rest =>
    if m == 0 then .error (.fault .zeroMultiplier ⟨start, s.stop⟩)
    else .ok ⟨.dice { roll with multiplier := some m }, [], none, rest⟩
  | ⟨.times, times⟩ :: rest =>
    .ok ⟨.dice roll, [], some (.unexpected rest.head? []), ⟨.times, times⟩ :: rest⟩
  | rest => .ok ⟨.dice roll, [.times], none, rest⟩

/-- A roll, from the tokens after its `d`. -/
def readRoll (count : Option (Spanned UInt32)) (die : Span) :
    List (Spanned Token) → Except Refusal TermReading
  | ⟨.int n, s⟩ :: rest =>
    let start := (count.map (·.span.start)).getD die.start
    match headFault? count die ⟨n, s⟩ with
    | some cause => .error (.fault cause ⟨start, s.stop⟩)
    | none => readMultiplier start { count := (count.map (·.value)).getD 1, sides := n } rest
  | rest => .error (.unexpected rest.head? [])

/-- The term that the tokens start with. -/
def readTerm : List (Spanned Token) → Except Refusal TermReading
  | ⟨.int n, s⟩ :: ⟨.die, d⟩ :: rest =>
    match readRoll (some ⟨n, s⟩) d rest with
    | .ok reading => .ok reading
    | .error refusal => .ok ⟨.flat n, [], refusal.further?, ⟨.die, d⟩ :: rest⟩
  | ⟨.int n, _⟩ :: rest => .ok ⟨.flat n, [.die], none, rest⟩
  | ⟨.die, d⟩ :: rest => readRoll none d rest
  | ⟨.symbol name, s⟩ :: rest =>
    match Symbol.ofName? name with
    | some symbol => .ok ⟨.symbol symbol, [], none, rest⟩
    | none => .error (.fault (.unknownSymbol name) s)
  | tokens => .error (.unexpected tokens.head? [.token .die])

theorem readMultiplier_rest {start : Nat} {roll : Roll} {tokens : List (Spanned Token)}
    {r : TermReading} (h : readMultiplier start roll tokens = .ok r) :
    r.rest.length ≤ tokens.length := by
  unfold readMultiplier at h
  split at h
  · split at h
    · cases h
    · cases h; simp; omega
  · cases h; simp
  · cases h; simp

theorem readRoll_rest {count : Option (Spanned UInt32)} {die : Span}
    {tokens : List (Spanned Token)} {r : TermReading} (h : readRoll count die tokens = .ok r) :
    r.rest.length < tokens.length := by
  unfold readRoll at h
  split at h
  · split at h
    · cases h
    · have := readMultiplier_rest h
      simp only [List.length_cons]
      omega
  · cases h

/-- A term takes at least one token. -/
theorem readTerm_rest {tokens : List (Spanned Token)} {r : TermReading}
    (h : readTerm tokens = .ok r) : r.rest.length < tokens.length := by
  unfold readTerm at h
  split at h
  · split at h
    · rename_i reading hr
      cases h
      have := readRoll_rest hr
      simp only [List.length_cons]
      omega
    · cases h; simp
  · cases h; simp
  · have := readRoll_rest h
    simp only [List.length_cons]
    omega
  · split at h
    · cases h; simp
    · cases h
  · cases h

/-- What could have stood behind a term. -/
def TermReading.expected (r : TermReading) : List Expectation :=
  (r.longer ++ [Token.plus, Token.minus]).map .token ++ [.ending]

/-- The terms of a formula, the first of them with the sign given. A term that no operator follows is
refused, by the longer term if that broke off further on. -/
def readTerms (sign : Sign) (tokens : List (Spanned Token)) : Except Refusal (List SignedTerm) :=
  match _h : readTerm tokens with
  | .error refusal => .error refusal
  | .ok r =>
    match _hr : r.rest with
    | [] => .ok [⟨sign, r.term⟩]
    | t :: more =>
      match t.value.sign? with
      | some next => (⟨sign, r.term⟩ :: ·) <$> readTerms next more
      | none => .error (r.missed.getD (.unexpected (some t) r.expected))
termination_by tokens.length
decreasing_by
  have := readTerm_rest _h
  rw [_hr, List.length_cons] at this
  omega

/-! ## Errors -/

/-- Whether a character is an operator of formulas. -/
def isOperator (c : Char) : Bool := c == '+' || c == '-' || c == '×' || c == 'x' || c == '*'

/-- Whether a character separates the last word of a formula from what stands before it. -/
def isSeparator (c : Char) : Bool := isBlank c || c == '+' || c == '-'

/-- Where the operator starts that a text ends with, or else its last word: one byte behind the last
separator. -/
def danglingStart (text : List Char) : Nat :=
  if text.getLast?.any isOperator then byteLength text.dropLast
  else ((lastPosition? isSeparator text).map (· + 1)).getD 0

/-- The span of an error. An empty one is widened to the operator or the word that the text before it
ends with. -/
def widen (source : List Char) (span : Span) : Span :=
  if span.start < span.stop then span
  else
    let before := trimEnd (((splitBytes? span.start source).map (·.1)).getD source)
    ⟨danglingStart before, byteLength before⟩

namespace Refusal

/-- The span of what a refusal blames. The end of the input is empty. -/
def span (source : List Char) : Refusal → Span
  | unexpected (some t) _ => t.span
  | unexpected none _ => .ofPiece (byteLength source) []
  | fault _ span => span

/-- A refusal in one line. -/
def message : Refusal → String
  | unexpected (some t) _ => s!"unexpected {t.value.describe}"
  | unexpected none _ => "unexpected end of input"
  | fault cause _ => cause.message

/-- What could have stood where a refusal is. -/
def expected : Refusal → List Expectation
  | unexpected _ expected => expected
  | fault .. => []

/-- The error that a refusal is, in the text that the tokens come from. It quotes nothing if its span
cuts a character. -/
def toParseError (source : List Char) (r : Refusal) : ParseError :=
  let span := widen source (r.span source)
  .formula span (String.ofList ((span.get? source).getD [])) r.message
    (r.expected.map Expectation.describe)

end Refusal

/-- The formula that a list of characters is. -/
def parseChars (source : List Char) : Except ParseError Formula :=
  match readTerms .plus (Token.scan source) with
  | .ok terms => .ok ⟨terms⟩
  | .error refusal => .error (refusal.toParseError source)

/-- The formula that a text is. -/
def parse (source : String) : Except ParseError Formula := parseChars source.toList

end Rulebook.Formula
