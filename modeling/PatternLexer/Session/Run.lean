import PatternLexer.Session.Basic

/-!
# Running a session

`Step.perform` does one step, except the blocks, and `Step.answer` does any step. In a reply a fault becomes the
answer, and the cursor that the step was about is shown as it is afterwards.
-/

namespace PatternLexer

namespace Session

/-- Updates a cursor and answers with what it handed out. -/
def handOut {α : Type} (on : String) (result : α × Cursor) : SessionM α := do
  change (·.put on (.cursor result.2))
  pure result.1

/-- Pulls from the generator stored under a name, `count` times at most or until it ends. -/
def generate (on : String) (all : Bool) : SessionM Answer := do
  match (← look on) with
  | .generator id g =>
    let some sc := (← current).scanners[id]? | throw (.unset on)
    let (tokens, last) :=
      if all then sc.pullAll (sc.bound + 1) g else ([], sc.pull g)
    change fun s => { s with scanners := s.scanners.set id last.scanner, log := s.log ++ last.log }
    change (·.put on (.generator id last.generator))
    match last.pulled with
    | .failed e => throw e
    | .token t => pure (if all then .tokens (tokens ++ [t]) else .token (some t))
    | .stopped => pure (if all then .tokens tokens else .stopped)
  | b => unfit b "__next__"

/-- Builds a cursor with a new lexer. The transform, if it is not nothing, overrides those of the
configuration. -/
def lexCursor (rules transform : Value) (explicit : Option Config) : SessionM Cursor := do
  let config ← Contextual.choose explicit
  let config ← match transform with
    | .null => pure config
    | v => pure { config with transforms := some (← lift (Transform.normalize v)) }
  let lx ← run (Lexer.compileValue rules)
  pure (.new lx config)

end Session

open Session

namespace Step

/-- The name of the thing that the step is about, if it is about one. -/
def on? : Step → Option String
  | tokenize on .. | matchAt on .. | reset on .. | next on _ | save on _ | pull on _ | drain on
  | take on _ | tokens on | has on _ | complaint on _ | configOf on | generator _ on | generate on
  | generateAll on => some on
  | _ => none

/-- Does a step that is no block. What the step is about is looked up first, then its expressions are
evaluated. -/
def perform : Step → SessionM Answer
  | build store rules => do
    let lx ← run (Lexer.compileValue (← evaluate rules))
    keep store (.lexer lx)
    pure (.text lx.shown)
  | tokenize on text line => do
    let b ← look on
    let text ← evaluate text
    let line ← evaluateOr (.int 1) line
    let lx ← asLexer "tokenize" b
    return .tokens (← run (lx.tokenize text line))
  | matchAt on text pos => do
    let b ← look on
    let text ← evaluate text
    let pos ← evaluate pos
    let lx ← asLexer "compiled" b
    return .ruleMatch (← lift (lx.composite.matchValue text pos))
  | cursor store lexer config => do
    let explicit ← evaluateConfig config
    let lx ← asLexer "tokenize" (← look lexer)
    let config ← Contextual.choose explicit
    keep store (.cursor (.new lx config))
    pure (.config config)
  | lexCursor store rules transform config => do
    let rules ← evaluate rules
    let transform ← evaluateOr .null transform
    let explicit ← evaluateConfig config
    let c ← Session.lexCursor rules transform explicit
    keep store (.cursor c)
    pure (.lexerWithConfig c.lexer.shown c.config)
  | reset on data info => do
    let b ← look on
    let data ← evaluateOr .null data
    let info ← evaluateOr .null info
    let c ← asCursor "reset" b
    let (c, outcome) := c.reset data info
    change (·.put on (.cursor c))
    run outcome
    pure .done
  | next on store => do
    let t ← handOut on (← asCursor "next" (← look on)).next
    keep store (.token t)
    pure (.token t)
  | save on store => do
    let t := (← asCursor "save" (← look on)).save
    keep store (.token t)
    pure (.token t)
  | pull on store => do
    let t ← lift (← handOut on (← asCursor "__next__" (← look on)).pull)
    keep store (.token (some t))
    pure (.token (some t))
  | drain on => do
    return .tokens (← handOut on (← asCursor "__iter__" (← look on)).drain)
  | take on count => do
    return .tokens (← handOut on ((← asCursor "__iter__" (← look on)).take (max count 1)))
  | tokens on => do return .tokens (← asCursor "tokens" (← look on)).tokens
  | has on names => do
    let b ← look on
    let names ← names.mapM evaluate
    let c ← asCursor "has" b
    pure (.flags (names.map c.has))
  | complaint on token => do
    let b ← look on
    let token ← evaluate token
    let _ ← asCursor "format_error" b
    return .text (← lift (Cursor.complaint token))
  | configOf on => do return .config (← asCursor "config" (← look on)).config
  | scanner store lexer text line => do
    let b ← look lexer
    let text ← evaluate text
    let line ← evaluateOr (.int 1) line
    let lx ← asLexer "compiled" b
    let id := (← current).scanners.length
    change fun s => { s with scanners := s.scanners ++ [.new lx text line] }
    keep store (.scanner id)
    pure .nothing
  | generator store on => do
    match (← look on) with
    | .scanner id =>
      keep store (.generator id .fresh)
      pure .nothing
    | b => unfit b "tokenize"
  | generate on => Session.generate on false
  | generateAll on => Session.generate on true
  | configGet => do return .config (← Contextual.config)
  | configSet config => do
    let c ← requireConfig config
    Contextual.setConfig c
    pure (.config c)
  | configReset => do
    Contextual.resetConfig
    return .config (← Contextual.config)
  | configMake store config => do
    let c ← requireConfig config
    keep store (.config c)
    pure (.config c)
  | normalize transforms => do
    return .transforms (← lift (Transform.normalize (← evaluate transforms)))
  | within .. | thread _ => pure .nothing

/-- The reply to a step that `act` does: a fault becomes the answer. -/
def replied (step : Step) (act : SessionM Answer) : SessionM Reply := do
  let outcome ← tryCatch (Except.ok <$> act) fun e => pure (.error e)
  let s ← current
  pure (.mk outcome (step.on?.bind s.view?))

mutual

/-- Does a step. A block that raises an exception after its steps is left by it. -/
def answer : Step → SessionM Answer
  | within config steps raises => do
    let c ← requireConfig config
    let replies ← Contextual.within c (replyAll steps)
    return .block replies (← Contextual.config) (if raises then some "boom" else none)
  | thread steps => do
    let replies ← Contextual.inThread (replyAll steps)
    return .block replies (← Contextual.config) none
  | step => step.perform

/-- Answers steps in order. -/
def replyAll : List Step → SessionM (List Reply)
  | [] => pure []
  | step :: rest => do
    let r ← step.replied (answer step)
    return r :: (← replyAll rest)

end

end Step

/-- Answers the steps of a session, and returns the records made. -/
def Session.answerAll (steps : List Step) : List Reply × List Record :=
  match Step.replyAll steps { state := {} } with
  | (.ok replies, ctx) => (replies, ctx.state.log)
  | (.error _, ctx) => ([], ctx.state.log)

end PatternLexer
