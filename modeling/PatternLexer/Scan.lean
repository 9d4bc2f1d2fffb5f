import PatternLexer.Lexer

/-!
# Scanning

A scan goes through a text from offset 0. Each step looks for the first rule with a match that is not empty
at the offset reached, and goes on at its end; it stops where there is none. The matches depend on nothing
but the rules and the text. Lines, columns, skipping and hooks come afterwards:

* `Lexer.probe` is one step, `Lexer.trace` the steps of a whole scan, `Lexer.matchesOf` its matches;
* `Place.after` keeps the line and the offset at which its columns start;
* `Lexer.emit` makes the token of a match, and `Lexer.emitAll` those of a list of steps.
-/

namespace PatternLexer

/-! ## Steps -/

/-- One step of a scan: the match found, and the rule whose empty match was passed over. -/
structure Probe where
  found : Option RuleMatch
  bypassed : Option Nat := none
deriving Repr, DecidableEq

namespace Rule

/-- What the rule's own pattern matches at `pos`, if that is not empty. -/
def ownMatch? (r : Rule) (index : Nat) (text : Subject) (pos : Nat) : Option RuleMatch :=
  match r.pattern.matchAt text pos with
  | some s => if pos < s.pos then some ⟨index, text.slice pos s.pos, pos, s.pos⟩ else none
  | none => none

end Rule

namespace Lexer

/-- The first of the rules, counted from `index`, whose own match is not empty. -/
def firstOwnMatch? (text : Subject) (pos : Nat) : (index : Nat) → List Rule → Option RuleMatch
  | _, [] => none
  | index, r :: rest =>
    match r.ownMatch? index text pos with
    | some m => some m
    | none => firstOwnMatch? text pos (index + 1) rest

/-- One step at `pos`. If the composite pattern finds an empty match, the rules after the one found are tried
one by one. A lexer has at least one rule, so the composite pattern never fails. -/
def probe (lx : Lexer) (text : Subject) (pos : Nat) : Probe :=
  match lx.composite.matchAt text pos with
  | .ok (some m) =>
    if m.start < m.stop then { found := some m }
    else
      { found := firstOwnMatch? text pos (m.index + 1) (lx.rules.drop (m.index + 1))
        bypassed := some m.index }
  | _ => { found := none }

/-- The steps from `pos` on, the last one being the first that finds nothing. -/
def traceFrom (lx : Lexer) (text : Subject) : (fuel pos : Nat) → List Probe
  | 0, _ => []
  | fuel + 1, pos =>
    let p := lx.probe text pos
    match p.found with
    | some m => p :: lx.traceFrom text fuel m.stop
    | none => [p]

/-- The steps of a scan. Every match moves on, so their number is at most one more than the length. -/
def trace (lx : Lexer) (text : Subject) : List Probe := lx.traceFrom text (text.size + 1) 0

/-- The matches of a scan. -/
def matchesOf (lx : Lexer) (text : Subject) : List RuleMatch := (lx.trace text).filterMap Probe.found

end Lexer

/-! ## Lines and columns -/

/-- The current line, and the offset from which its columns are counted. -/
structure Place where
  line : Value
  lineStart : Nat
deriving Inhabited

namespace Place

/-- The place after a match: a match with line feeds in it ends one line, however many there are. -/
def after (p : Place) (m : RuleMatch) : Except Fault Place :=
  if m.text.contains '\n' then do .ok ⟨← p.line.increment, m.stop⟩ else .ok p

/-- The column of an offset, from 1; an offset before the start of the line has a column below that. -/
def column (p : Place) (offset : Nat) : Int := (offset : Int) - p.lineStart + 1

end Place

/-! ## Tokens of a scan -/

namespace Lexer

/-- The token of a match, its place being the one after the match; none if its rule skips. -/
def emit (lx : Lexer) (p : Place) (m : RuleMatch) : Except Fault (Option Token) :=
  match lx.rules[m.index]? with
  | none => .ok none
  | some r =>
    if r.skips then .ok none
    else do
      let value ← match r.hook with
        | some hook => hook m.text
        | none => .ok (.str m.text)
      let type := if m.index = lx.fallbackIndex then errorName else r.name
      .ok (some ⟨.str type, value, p.line, .int (p.column m.start), .int m.text.length⟩)

/-- The record of a step that passed over an empty match at `pos`. -/
def bypassRecords (lx : Lexer) (pos : Nat) (p : Probe) : List Record :=
  match p.bypassed with
  | none => []
  | some index =>
    let name := ((lx.rules[index]?).map Rule.name).getD ""
    [⟨.debug, .scanner, some ("Rule '" ++ name ++ "' matched an empty string at offset " ++
      toString pos ++ "; trying later rules")⟩]

/-- What came of a scan: the tokens up to its end or to a fault. -/
structure ScanOutcome where
  tokens : List Token := []
  fault : Option Fault := none
  log : List Record := []

/-- Makes the tokens of the steps from `pos` on, up to the first fault. -/
def emitAll (lx : Lexer) (place : Place) (pos : Nat) : List Probe → ScanOutcome
  | [] => {}
  | p :: rest =>
    let log := lx.bypassRecords pos p
    match p.found with
    | none => { log }
    | some m =>
      match place.after m with
      | .error e => { fault := some e, log }
      | .ok next =>
        match lx.emit next m with
        | .error e => { fault := some e, log }
        | .ok token =>
          let others := lx.emitAll next m.stop rest
          { others with tokens := token.toList ++ others.tokens, log := log ++ others.log }

/-- Scans a text whose first line is `line`. -/
def scanText (lx : Lexer) (text : Subject) (line : Value) : ScanOutcome :=
  lx.emitAll ⟨line, 0⟩ 0 (lx.trace text)

/-- Scans a value, which has to be a text. -/
def scanValue (lx : Lexer) (text line : Value) : ScanOutcome :=
  match text.subject with
  | .ok subject => lx.scanText subject line
  | .error e => { fault := some e }

/-- All tokens of a scan, unless it fails. -/
def tokenize (lx : Lexer) (text line : Value) : Logged (List Token) :=
  let outcome := lx.scanValue text line
  ⟨outcome.log, match outcome.fault with
    | none => .ok outcome.tokens
    | some e => .error e⟩

end Lexer

end PatternLexer
