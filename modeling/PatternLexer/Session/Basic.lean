import PatternLexer.Context
import PatternLexer.Cursor
import PatternLexer.Scanner
import PatternLexer.Session.Expression

/-!
# Sessions

A session is a program of steps that build lexers, cursors and scanners under names, use them, and change the
context configuration. Each step is answered; a step that fails is answered by its fault, and the session
goes on.
-/

namespace PatternLexer

/-- A step of a session. -/
inductive Step where
  | build (store : Option String) (rules : Expression)
  | tokenize (on : String) (text : Expression) (line : Option Expression)
  | matchAt (on : String) (text pos : Expression)
  | cursor (store : Option String) (lexer : String) (config : Option Expression)
  /-- A lexer and a cursor over it at once, with transforms that override those of the configuration. -/
  | lexCursor (store : Option String) (rules : Expression) (transform config : Option Expression)
  | reset (on : String) (data info : Option Expression)
  | next (on : String) (store : Option String)
  | save (on : String) (store : Option String)
  | pull (on : String) (store : Option String)
  | drain (on : String)
  | take (on : String) (count : Nat)
  | tokens (on : String)
  | has (on : String) (names : List Expression)
  | complaint (on : String) (token : Expression)
  | configOf (on : String)
  | scanner (store : Option String) (lexer : String) (text : Expression) (line : Option Expression)
  | generator (store : Option String) (on : String)
  | generate (on : String)
  | generateAll (on : String)
  | configGet
  | configSet (config : Expression)
  | configReset
  | configMake (store : Option String) (config : Expression)
  | normalize (transforms : Expression)
  /-- Steps under another configuration; an exception may be raised after the last. -/
  | within (config : Expression) (steps : List Step) (raises : Bool)
  | thread (steps : List Step)
deriving Inhabited

/-- What can be seen of a cursor at any time. -/
structure CursorView where
  position : Nat
  buffer : Value
  count : Nat

/-- What can be seen of a cursor. -/
def Cursor.view (c : Cursor) : CursorView := ⟨c.position, c.buffer, c.tokens.length⟩

mutual

/-- The answer to a step that went well. -/
inductive Answer where
  | done
  | nothing
  | stopped
  | text (s : String)
  | token (t : Option Token)
  | tokens (ts : List Token)
  | ruleMatch (m : Option RuleMatch)
  | config (c : Config)
  | lexerWithConfig (lexer : String) (c : Config)
  | transforms (ts : List Transform)
  | flags (results : List (Except Fault Bool))
  /-- The replies to the steps of a block, and the context configuration after it. -/
  | block (replies : List Reply) (after : Config) (raised : Option String)

/-- The reply to a step; the view is that of the cursor it was about. -/
inductive Reply where
  | mk (outcome : Except Fault Answer) (view : Option CursorView)

end

/-- What is stored under a name. -/
inductive Binding where
  | lexer (lx : Lexer)
  | cursor (c : Cursor)
  /-- A scanner, by its number. -/
  | scanner (id : Nat)
  | generator (scanner : Nat) (g : Generator)
  | config (c : Config)
  | token (t : Option Token)

/-- The type of what is stored, as complaints call it. -/
def Binding.typeName : Binding → String
  | lexer _ => "Lexer"
  | cursor _ => "TokenCursor"
  | scanner _ => "Scanner"
  | generator .. => "generator"
  | config _ => "LexerConfig"
  | token (some _) => "Token"
  | token none => "NoneType"

/-- A binding as a stored thing of an expression. -/
def Binding.toStored : Binding → Stored
  | config c => .config c
  | token (some t) => .value t.toValue
  | token none => .value .null
  | b => .value (.handle b.typeName)

/-- The state of a session. -/
structure Session where
  /-- What is stored, the latest first. -/
  bindings : List (String × Binding) := []
  /-- The scanners by number. -/
  scanners : List Scanner := []
  log : List Record := []

/-- A program over a session. -/
abbrev SessionM (α : Type) := Contextual Session α

namespace Session

/-- What is stored under a name. -/
def find (s : Session) (name : String) : Except Fault Binding :=
  match s.bindings.lookup name with
  | some b => .ok b
  | none => .error (.unset name)

/-- Stores something under a name. -/
def put (s : Session) (name : String) (b : Binding) : Session :=
  { s with bindings := (name, b) :: s.bindings.filter (·.1 != name) }

/-- Access to what is stored, for expressions. -/
def store (s : Session) : Expression.Store := fun name => (s.find name).map Binding.toStored

/-- What can be seen of the cursor stored under a name. -/
def view? (s : Session) (name : String) : Option CursorView :=
  match s.bindings.lookup name with
  | some (.cursor c) => some c.view
  | _ => none

/-! ## Programs over sessions -/

/-- The session. -/
def current : SessionM Session := return (← get).state

/-- Changes the session. -/
def change (f : Session → Session) : SessionM Unit :=
  modify fun ctx => { ctx with state := f ctx.state }

/-- An outcome. -/
def lift {α : Type} (outcome : Except Fault α) : SessionM α :=
  match outcome with
  | .ok a => pure a
  | .error e => throw e

/-- An operation with records, which are kept. -/
def run {α : Type} (operation : Logged α) : SessionM α := do
  change fun s => { s with log := s.log ++ operation.log }
  lift operation.result

/-- What is stored under a name. -/
def look (name : String) : SessionM Binding := do lift ((← current).find name)

/-- Stores something if a name is given. -/
def keep (name : Option String) (b : Binding) : SessionM Unit :=
  match name with
  | some n => change (·.put n b)
  | none => pure ()

/-- The value of an expression. -/
def evaluate (e : Expression) : SessionM Value := do lift (e.eval (← current).store)

/-- The value of an expression, or a default if there is none. -/
def evaluateOr (default : Value) (e : Option Expression) : SessionM Value :=
  match e with
  | some e => evaluate e
  | none => pure default

/-- The configuration that an expression describes, if there is one. -/
def evaluateConfig (e : Option Expression) : SessionM (Option Config) := do
  match e with
  | some e => lift (e.evalConfig (← current).store)
  | none => pure none

/-- The configuration that an expression describes, which may not be missing. -/
def requireConfig (e : Expression) : SessionM Config := do
  match (← evaluateConfig (some e)) with
  | some c => pure c
  | none => throw (.noAttribute "NoneType" "start_line")

/-- A complaint about a step that what is stored cannot take. -/
def unfit {α : Type} (b : Binding) (operation : String) : SessionM α :=
  throw (.noAttribute b.typeName operation)

/-- The lexer that a name stands for. -/
def asLexer (operation : String) : Binding → SessionM Lexer
  | .lexer lx => pure lx
  | b => unfit b operation

/-- The cursor that a name stands for. -/
def asCursor (operation : String) : Binding → SessionM Cursor
  | .cursor c => pure c
  | b => unfit b operation

end Session

end PatternLexer
