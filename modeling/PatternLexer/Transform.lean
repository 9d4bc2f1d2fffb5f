import PatternLexer.Hook
import PatternLexer.Text.Case

/-!
# Token transforms

A transform changes the list of all tokens of a reset, or fails. The transforms that callers can name are
defined here; a value that is no function still stands for a transform, one that always fails.
-/

namespace PatternLexer

open Text

/-- Changes a list of tokens. Callers recognise it by the value they gave. -/
structure Transform where
  given : Value
  run : List Token → Except Fault (List Token)

namespace Transform

/-- The first `n` items, or all but the last `-n`. -/
def takeSigned {α : Type} (n : Int) (xs : List α) : List α :=
  if 0 ≤ n then xs.take n.toNat else xs.take (xs.length - (-n).toNat)

/-- A type with a suffix. -/
def addSuffix (suffix : Value) : Value → Except Fault Value
  | .str s =>
    match suffix with
    | .str t => .ok (.str (s ++ t))
    | v => .error (.notConcatenated "str" v.typeName)
  | v => .error (.notAdded v.typeName)

/-- A type in lower case. -/
def lowerType : Value → Except Fault Value
  | .str s => .ok (.str (lowercase s))
  | v => .error (.noAttribute v.typeName "lower")

/-- The token with the five fields of a list. -/
def tokenOf : Value → Token
  | .list [type, value, line, col, length] => ⟨type, value, line, col, length⟩
  | v => ⟨v, .null, .null, .null, .null⟩

/-- What the named transform makes of a list of tokens. -/
def apply (name : String) (parameters : List (String × Value)) (tokens : List Token) :
    Except Fault (List Token) :=
  let parameter := fun key => (parameters.lookup key).getD .null
  match name with
  | "identity" => .ok tokens
  | "reverse" => .ok tokens.reverse
  | "drop" => .ok (tokens.filter fun t => !t.type.same (parameter "type"))
  | "keep" => .ok (tokens.filter fun t => t.type.same (parameter "type"))
  | "tag" => tokens.mapM fun t => do .ok (t.withType (← addSuffix (parameter "suffix") t.type))
  | "lower" => tokens.mapM fun t => do .ok (t.withType (← lowerType t.type))
  | "empty" => .ok []
  | "dup" => .ok (tokens.flatMap fun t => [t, t])
  | "first" =>
    match parameter "n" with
    | .int n => .ok (takeSigned n tokens)
    | .bool b => .ok (tokens.take b.toNat)
    | _ => .ok tokens
  | "pop" => if tokens.isEmpty then .error .popFromEmpty else .ok tokens.dropLast
  | "append" => .ok (tokens ++ [tokenOf (parameter "token")])
  | "none" => .error (.notIterable "NoneType")
  | "fail" => .error (.transformFailed tokens.length)
  | _ => .ok tokens

/-- The transform that a value stands for. -/
def ofValue (v : Value) : Transform where
  given := v
  run := match v with
    | .transform name parameters => apply name parameters
    | .hook h => fun tokens => h.applyToTokens tokens
    | .handle "Lexer" => fun _ => .error (.notText (.type "list"))
    | v => fun _ => .error (.notCallable v.typeName)

/-- Applies transforms in order, up to the first fault. -/
def applyAll : List Transform → List Token → Except Fault (List Token)
  | [], tokens => .ok tokens
  | f :: rest, tokens =>
    match f.run tokens with
    | .ok changed => applyAll rest changed
    | .error e => .error e

/-- The transforms that a value stands for: none, one, or those it yields. -/
def normalize (v : Value) : Except Fault (List Transform) :=
  match v with
  | .null => .ok []
  | _ =>
    if v.isCallable then .ok [ofValue v]
    else do .ok ((← v.elements).map ofValue)

end Transform

end PatternLexer
