import PatternLexer.Value.Shown

/-!
# Tokens

A token has a type, a value, and the place and length of the text it was made from. Two types are
reserved: `ERROR` for text that no rule matches and `EOF` for the end of the stream. Callers may build
tokens of their own, so every field is a value.
-/

namespace PatternLexer

/-- The type of the token after the last one. -/
def eofName : String := "EOF"

/-- The type of tokens for text that no rule matches. -/
def errorName : String := "ERROR"

/-- Whether a name is taken by the lexer itself. -/
def isReserved (name : String) : Bool := name == eofName || name == errorName

/-- A token. -/
structure Token where
  type : Value
  value : Value
  line : Value
  col : Value
  length : Value
deriving Inhabited

namespace Token

/-- The token as a value. -/
def toValue (t : Token) : Value := .token t.type t.value t.line t.col t.length

/-- The same token with another type. -/
def withType (t : Token) (type : Value) : Token := { t with type := type }

/-- The token for the end of a stream without tokens that starts at `line`. -/
def eofAt (line : Value) : Token := ⟨.str eofName, .str "", line, .int 1, .int 0⟩

/-- The token as its reader sees it. -/
def shown (t : Token) : Except Fault String := t.toValue.shown

/-- The fields by name. -/
def toEntries (t : Token) : List (String × Value) :=
  [("type", t.type), ("value", t.value), ("line", t.line), ("col", t.col), ("length", t.length)]

/-- Equality field by field. -/
def same (t u : Token) : Bool := t.toValue.same u.toValue

/-- The type is reserved. Types that cannot be looked up are a fault. -/
def isReserved (t : Token) : Except Fault Bool :=
  match t.type.unhashable? with
  | some name => .error (.notHashable name)
  | none => match t.type with
    | .str s => .ok (PatternLexer.isReserved s)
    | _ => .ok false

end Token

end PatternLexer
