import PatternLexer.Config
import PatternLexer.Scan

/-!
# Cursors

A cursor hands out the tokens of a text one at a time, to a parser for instance. After the last token comes
one `EOF` token, and then nothing. A reset scans a new text and starts again at its first token; if it fails,
the new text and start line are kept with the old tokens.
-/

namespace PatternLexer

/-- A cursor over the tokens of a text. -/
structure Cursor where
  lexer : Lexer
  config : Config
  /-- The text of the last reset. -/
  buffer : Value := .str ""
  tokens : List Token := []
  /-- The number of pulls, up to one more than the number of tokens. -/
  position : Nat := 0
  /-- The line that the last reset started at. -/
  startLine : Value

namespace Cursor

/-- A cursor without a text. -/
def new (lexer : Lexer) (config : Config) : Cursor :=
  { lexer, config, startLine := config.startLine }

/-- The record about a reset that went well. -/
def resetRecord (tokens : List Token) (text : String) (line : Value) : Record :=
  ⟨.debug, .cursor, (line.wholeNumber?).map fun l =>
    "Reset cursor: " ++ toString tokens.length ++ " tokens from " ++ toString text.length ++
      " chars starting at line " ++ l⟩

/-- The tokens of a text under the configuration of the cursor. -/
def tokensOf (c : Cursor) (buffer line : Value) : Logged (List Token) := do
  let scanned ← c.lexer.tokenize buffer line
  let tokens ← .ofExcept (match c.config.transforms with
    | some transforms => Transform.applyAll transforms scanned
    | none => .error (.notIterable "NoneType"))
  let text := match buffer with
    | .str s => s
    | _ => ""
  .note (resetRecord tokens text line)
  pure tokens

/-- Scans a new text, nothing standing for the empty one: the cursor after it, and whether it went well. -/
def reset (c : Cursor) (data info : Value) : Cursor × Logged Unit :=
  let buffer := if data.truthy then data else .str ""
  let line := c.config.lineFrom info
  let started := { c with buffer, startLine := line }
  let outcome := c.tokensOf buffer line
  match outcome.result with
  | .ok tokens => ({ started with tokens, position := 0 }, ⟨outcome.log, .ok ()⟩)
  | .error e => (started, ⟨outcome.log, .error e⟩)

/-- The token after the last one: a copy of the last with its type changed. -/
def eofToken (c : Cursor) : Token :=
  match c.tokens.getLast? with
  | some t => t.withType (.str eofName)
  | none => .eofAt c.startLine

/-- The token at the position, the `EOF` token after the last, and then nothing. -/
def current (c : Cursor) : Option Token :=
  if c.position = c.tokens.length then some c.eofToken else c.tokens[c.position]?

/-- Hands out the current token and moves on. -/
def next (c : Cursor) : Option Token × Cursor :=
  match c.current with
  | some t => (some t, { c with position := c.position + 1 })
  | none => (none, c)

/-- The token at the position, without moving. -/
def save (c : Cursor) : Option Token := c.tokens[c.position]?

/-- Like `next`, but the end is a fault. -/
def pull (c : Cursor) : Except Fault Token × Cursor :=
  match c.next with
  | (some t, c) => (.ok t, c)
  | (none, c) => (.error .exhausted, c)

/-- Hands out up to `n` tokens, the `EOF` token included. -/
def take : (n : Nat) → Cursor → List Token × Cursor
  | 0, c => ([], c)
  | n + 1, c =>
    match c.next with
    | (some t, c) =>
      let (rest, c) := take n c
      (t :: rest, c)
    | (none, c) => ([], c)

/-- Hands out all remaining tokens, the `EOF` token included. -/
def drain (c : Cursor) : List Token × Cursor := c.take (c.tokens.length + 1 - c.position)

/-- Whether tokens can have the type: that of a rule, or one of the reserved ones. Types that cannot be
looked up are a fault. -/
def has (c : Cursor) (type : Value) : Except Fault Bool :=
  match type.unhashable? with
  | some name => .error (.notHashable name)
  | none => match type with
    | .str s => .ok (s == eofName || c.lexer.names.contains s)
    | _ => .ok false

/-- The complaint about a token, or about anything else with a value and a line. -/
def complaint (token : Value) : Except Fault String := do
  let value ← (← token.field "value").text
  let line ← (← token.field "line").text
  .ok ("Error near \"" ++ value ++ "\" in line " ++ line)

end Cursor

end PatternLexer
