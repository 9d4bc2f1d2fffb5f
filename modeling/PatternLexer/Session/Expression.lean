import PatternLexer.Config
import PatternLexer.Rule.Basic

/-!
# Value expressions

Programs describe the values they hand in by expressions, which are evaluated from left to right when they
are needed. Evaluation can fail, since it compiles patterns and looks up stored values.
-/

namespace PatternLexer

/-- A description of a value. -/
inductive Expression where
  | literal (v : Value)
  | list (items : List Expression)
  | tuple (items : List Expression)
  | dict (entries : List (String × Expression))
  /-- A pattern compiled with flags given by their letters. -/
  | pattern (source flags : String)
  /-- A rule whose name is read off its pattern. -/
  | rule (pattern skip hook : Expression)
  /-- A rule that is not checked. -/
  | uncheckedRule (name pattern skip hook : Expression)
  | token (fields : List Expression)
  | object (attributes : List (String × Expression))
  /-- A value stored before. -/
  | stored (name : String)
  /-- A configuration described by a dictionary. -/
  | configOf (entries : Expression)
  /-- A configuration given by some of its parts. -/
  | configParts (parts : List (String × Expression))
deriving Inhabited

/-- What can be stored under a name, as far as expressions are concerned. -/
inductive Stored where
  | value (v : Value)
  | config (c : Config)

/-- A stored thing where a value is expected. -/
def Stored.toValue : Stored → Value
  | value v => v
  | config _ => .handle "LexerConfig"

namespace Expression

/-- Gives access to stored things. -/
abbrev Store := String → Except Fault Stored

/-- The token with the given fields. -/
def tokenOf (fields : List Value) : Value :=
  match fields with
  | [type, value, line, col, length] => .token type value line col length
  | _ => .list fields

mutual

/-- The value of an expression. -/
def eval (store : Store) : Expression → Except Fault Value
  | literal v => .ok v
  | list items => do .ok (.list (← evalItems store items))
  | tuple items => do .ok (.tuple (← evalItems store items))
  | dict entries => do .ok (.dict (← evalEntries store entries))
  | pattern source flags => do
    .ok (.pattern (← compilePattern source (.ofLetters flags.toList)))
  | rule p skip hook => do
    let p ← eval store p
    let skip ← eval store skip
    makeRule p skip (← eval store hook)
  | uncheckedRule name p skip hook => do
    let name ← eval store name
    let p ← eval store p
    let skip ← eval store skip
    .ok (.rule name p skip (← eval store hook))
  | token fields => do .ok (tokenOf (← evalItems store fields))
  | object attributes => do .ok (.object (← evalEntries store attributes))
  | stored name => do .ok (← store name).toValue
  | configOf entries => do
    let _ ← Config.ofValue (← eval store entries)
    .ok (Stored.config .standard).toValue
  | configParts parts => do
    let parts ← evalEntries store parts
    let _ ← Config.ofParts (parts.lookup "start_line") (parts.lookup "transforms")
    .ok (Stored.config .standard).toValue

/-- The values of expressions, in order. -/
def evalItems (store : Store) : List Expression → Except Fault (List Value)
  | [] => .ok []
  | e :: rest => do
    let v ← eval store e
    .ok (v :: (← evalItems store rest))

/-- The entries with the values of their expressions, in order. -/
def evalEntries (store : Store) : List (String × Expression) → Except Fault (List (String × Value))
  | [] => .ok []
  | (k, e) :: rest => do
    let v ← eval store e
    .ok ((k, v) :: (← evalEntries store rest))

end

/-- The configuration that an expression describes; none for nothing. -/
def evalConfig (store : Store) (e : Expression) : Except Fault (Option Config) := do
  match e with
  | configOf entries => .ok (some (← Config.ofValue (← eval store entries)))
  | configParts parts =>
    let parts ← evalEntries store parts
    .ok (some (← Config.ofParts (parts.lookup "start_line") (parts.lookup "transforms")))
  | stored name =>
    match (← store name) with
    | .config c => .ok (some c)
    | .value .null => .ok none
    | .value v => .error (.noAttribute v.typeName "start_line")
  | e =>
    match (← eval store e) with
    | .null => .ok none
    | v => .error (.noAttribute v.typeName "start_line")

end Expression

end PatternLexer
