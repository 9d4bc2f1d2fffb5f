import PatternLexer.Text.Quoted

/-!
# Why a rule is refused

A rule needs a pattern with exactly one named group, whose name is the type of the tokens it makes. The
name must not be reserved and must be new in its list.
-/

namespace PatternLexer

open Text

/-- What is wrong with an entry of a rule list. -/
inductive RuleCause where
  /-- A tuple that is not a pattern with options. -/
  | malformedPair
  /-- A value of the given type where a pattern is expected. -/
  | notPattern (typeName : String)
  /-- A number of named groups other than one. -/
  | nameCount (found : Nat)
  /-- A rule that was given a name other than that of its group. -/
  | nameMismatch (given group : String)
  | reservedName (name : String)
  | duplicateName (name : String)
deriving Repr, DecidableEq

/-- The wording of a cause. -/
def RuleCause.detail : RuleCause → String
  | malformedPair => "expected a pattern or a (pattern, options) pair"
  | notPattern typeName => "expected a regular expression, got " ++ typeName
  | nameCount n => "expected exactly one named group, found " ++ toString n
  | nameMismatch given name =>
    "rule name '" ++ given ++ "' does not match group name '" ++ name ++ "'"
  | reservedName name => "token name '" ++ name ++ "' is reserved"
  | duplicateName name => "duplicate token name '" ++ name ++ "'"

/-- What a pattern was compiled from. -/
inductive PatternSource where
  | text (s : String)
  | bytes (codes : List UInt8)
deriving Repr, DecidableEq

/-- The source as complaints show it. -/
def PatternSource.shown : PatternSource → String
  | text s => quoted s
  | bytes codes => quotedBytes codes

/-- A cause, with the place in the rule list and the source of the pattern where they are known. -/
structure RuleError where
  cause : RuleCause
  index : Option Nat
  pattern : Option PatternSource
deriving Repr, DecidableEq

/-- The source, if it is a text. -/
def RuleError.source (e : RuleError) : Option String :=
  match e.pattern with
  | some (.text s) => some s
  | _ => none

/-- A wording between the place and the pattern it is about. -/
def ruleMessage (index : Option String) (detail : String) (quotedSource : Option String) : String :=
  (match index with
    | some i => "Rule #" ++ i ++ ": "
    | none => "") ++ detail ++
  match quotedSource with
    | some s => " (pattern " ++ s ++ ")"
    | none => ""

/-- The wording of an error. -/
def RuleError.message (e : RuleError) : String :=
  ruleMessage (e.index.map toString) e.cause.detail (e.pattern.map PatternSource.shown)

end PatternLexer
