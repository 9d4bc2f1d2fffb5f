import PatternLexer.Scan

/-!
# Scanners and generators

A scanner is a scan that is pulled token by token. Any number of generators may pull from one scanner; they
share its offset, line and column base. A generator notes the end of the match it handed out and moves the
scanner there only when it is pulled again, so generators that take turns can send each other back.
-/

namespace PatternLexer

/-- A scan in progress, shared by its generators. -/
structure Scanner where
  lexer : Lexer
  /-- The text, or the complaint of every pull if there is none. -/
  text : Except Fault Subject
  pos : Nat
  place : Place

/-- Where a generator stands. -/
inductive Generator where
  | fresh
  /-- It handed out a token and goes on at this offset. -/
  | waiting (resume : Nat)
  | finished
deriving Repr, DecidableEq

/-- What a pull yields. -/
inductive Pulled where
  | token (t : Token)
  | stopped
  | failed (e : Fault)

/-- A pull: what it yields, the state after it, and its records. -/
structure PullResult where
  pulled : Pulled
  scanner : Scanner
  generator : Generator
  log : List Record

namespace Scanner

/-- A scanner at the start of its text. -/
def new (lexer : Lexer) (text line : Value) : Scanner := ⟨lexer, text.subject, 0, ⟨line, 0⟩⟩

/-- Takes steps until one yields a token, fails, or finds nothing. -/
def pullFrom (text : Subject) : (fuel : Nat) → Scanner → PullResult
  | 0, s => ⟨.stopped, s, .finished, []⟩
  | fuel + 1, s =>
    let p := s.lexer.probe text s.pos
    let log := s.lexer.bypassRecords s.pos p
    match p.found with
    | none => ⟨.stopped, s, .finished, log⟩
    | some m =>
      match s.place.after m with
      | .error e => ⟨.failed e, s, .finished, log⟩
      | .ok place =>
        let s := { s with place }
        match s.lexer.emit place m with
        | .error e => ⟨.failed e, s, .finished, log⟩
        | .ok (some t) => ⟨.token t, s, .waiting m.stop, log⟩
        | .ok none =>
          let r := pullFrom text fuel { s with pos := m.stop }
          { r with log := log ++ r.log }

/-- Pulls from a scanner that stands where the generator goes on. -/
def pullHere (s : Scanner) : PullResult :=
  match s.text with
  | .ok text => pullFrom text (text.size + 1) s
  | .error e => ⟨.failed e, s, .finished, []⟩

/-- Pulls the next token of a generator. -/
def pull (s : Scanner) : Generator → PullResult
  | .fresh => s.pullHere
  | .waiting resume => { s with pos := resume }.pullHere
  | .finished => ⟨.stopped, s, .finished, []⟩

/-- The most tokens that a generator can still yield. -/
def bound (s : Scanner) : Nat :=
  match s.text with
  | .ok text => text.size + 1
  | .error _ => 1

/-- Pulls until a generator stops or fails: the tokens, how it ended, and the state after it. -/
def pullAll : (fuel : Nat) → Scanner → Generator → List Token × PullResult
  | 0, s, g => ([], ⟨.stopped, s, g, []⟩)
  | fuel + 1, s, g =>
    let r := s.pull g
    match r.pulled with
    | .token t =>
      let (tokens, last) := pullAll fuel r.scanner r.generator
      (t :: tokens, { last with log := r.log ++ last.log })
    | _ => ([], r)

end Scanner

end PatternLexer
