import PatternLexer.Scan

/-!
# Example: arithmetic expressions

A lexer for numbers and operators. Numbers are written in their shortest form, in the digits `0` to `9`.
-/

namespace PatternLexer.Examples.Arithmetic

/-- The value of a number token. -/
def normalForm : Hook := fun s => do
  let n ← parseInteger s
  .ok (.str (← printInteger n))

/-- The rules: numbers, blanks that are skipped, operators. -/
def entries : List Entry :=
  [.pair (.source "(?P<NUM>\\d+)") false (some normalForm),
    .pair (.source "(?P<WS>\\s+)") true none,
    .bare (.source "(?P<OP>[-+*/])")]

/-- The tokens of an expression. -/
def tokensOf (text : String) : Except Fault (List Token) := do
  let lx ← (Lexer.compile entries).result
  (lx.tokenize (.str text) (.int 1)).result

/-- The tokens of an expression as their reader sees them. -/
def shownTokens (text : String) : Except Fault (List String) := do
  (← tokensOf text).mapM Token.shown

/-- What a demonstration on one expression prints. -/
def demonstration : Except Fault String := do
  let lines ← shownTokens "12 + 3 * 007"
  .ok (String.join (lines.map (· ++ "\n")))

end PatternLexer.Examples.Arithmetic
