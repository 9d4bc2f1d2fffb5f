import PatternLexer.Cursor

/-!
# Example: sums

A parser for sums of numbers that pulls its tokens from a cursor. The grammar is
`sum := NUM (PLUS NUM)*`. One cursor serves any number of texts, one after the other.
-/

namespace PatternLexer.Examples.Sum

/-- The rules: numbers, blanks that are skipped, the plus sign. -/
def entries : List Entry :=
  [.bare (.source "(?P<NUM>\\d+)"),
    .pair (.source "(?P<WS>\\s+)") true none,
    .bare (.source "(?P<PLUS>\\+)")]

/-- The cursor before the first text. -/
def newCursor : Except Fault Cursor := do
  .ok (.new (← (Lexer.compile entries).result) .standard)

/-- The token has the type. -/
def isType (t : Token) (name : String) : Bool := t.type.same (.str name)

/-- The complaint about a token. -/
def reject {α : Type} (t : Token) : Except Fault α := do
  .error (.ungrammatical (← Cursor.complaint t.toValue))

/-- The integer that a number token stands for. -/
def numberOf (t : Token) : Except Fault Int := do parseInteger (← t.value.text)

/-- The complaint when tokens run out, which the `EOF` token prevents. -/
def noToken {α : Type} : Except Fault α := .error (.noAttribute "NoneType" "type")

/-- Reads `NUM (PLUS NUM)* EOF` after the sum `total`, at most `fuel` numbers. -/
def readSum : (fuel : Nat) → (total : Int) → Cursor → Except Fault Int × Cursor
  | 0, _, c => (noToken, c)
  | fuel + 1, total, c =>
    match c.next with
    | (none, c) => (noToken, c)
    | (some number, c) =>
      if !isType number "NUM" then (reject number, c)
      else match numberOf number with
        | .error e => (.error e, c)
        | .ok n =>
          match c.next with
          | (none, c) => (noToken, c)
          | (some after, c) =>
            if isType after eofName then (.ok (total + n), c)
            else if isType after "PLUS" then readSum fuel (total + n) c
            else (reject after, c)

/-- Reads a sum with a cursor, whatever it was used for before. -/
def parseSum (c : Cursor) (text : String) : Except Fault Int × Cursor :=
  let (c, outcome) := c.reset (.str text) .null
  match outcome.result with
  | .error e => (.error e, c)
  | .ok () => readSum (c.tokens.length + 1) 0 c

/-- Reads sums one after the other with one cursor. -/
def parseSums (c : Cursor) : List String → List (Except Fault Int)
  | [] => []
  | text :: rest =>
    let (result, c) := parseSum c text
    result :: parseSums c rest

/-- The results for texts that are read one after the other. -/
def results (texts : List String) : List (Except Fault Int) :=
  match newCursor with
  | .ok c => parseSums c texts
  | .error e => texts.map fun _ => .error e

/-- What a demonstration on one sum and one text that is none prints. -/
def demonstration : String :=
  String.join ((results ["1 + 2 +\n 39", "1 + ?"]).map fun
    | .ok n => toString n ++ "\n"
    | .error e => e.message ++ "\n")

end PatternLexer.Examples.Sum
