import PatternLexer.Rule.Composite

/-!
# Lexers

A lexer is a checked list of rules, the rule of last resort at its end, with their composite pattern. A list
of entries is checked from the front, and the first bad entry is reported.
-/

namespace PatternLexer

namespace Lexer

/-- The rules with the rule of last resort after them. -/
def withFallback (rules : List Rule) : List Rule := rules ++ [Rule.fallback]

/-- The names of rules, in order. -/
def namesOf (rules : List Rule) : List String := rules.map Rule.name

end Lexer

/-- A compiled list of rules. -/
structure Lexer where
  /-- The rules that were given, in order of priority. -/
  given : List Rule
  composite : Composite
  isOfRules : composite.parts = (Lexer.withFallback given).map Rule.pattern

namespace Lexer

/-- The rules in order of priority, the rule of last resort last. -/
def rules (lx : Lexer) : List Rule := withFallback lx.given

/-! ## Checking entries -/

/-- The rule at `index`, after rules with the names `seen`. -/
def checkEntry (seen : List String) (index : Nat) (e : Entry) : Except Fault Rule := do
  let d ← e.draft index
  if isReserved d.name then
    .error (.rule ⟨.reservedName d.name, some index, some d.pattern.source⟩)
  else if seen.contains d.name then
    .error (.rule ⟨.duplicateName d.name, some index, some d.pattern.source⟩)
  else d.toRule

/-- The record about a rule that matches the empty text. -/
def emptyMatchRecord (index : Nat) (r : Rule) : Record :=
  ⟨.warning, .rules, some ("Rule #" ++ toString index ++ " (" ++ r.name ++
    ") can match an empty string; empty matches fall through to later rules")⟩

/-- The rules of the entries from `index` on, after rules with the names `seen`. -/
def checkFrom (seen : List String) (index : Nat) : List Entry → Logged (List Rule)
  | [] => pure []
  | e :: rest => do
    let r ← .ofExcept (checkEntry seen index e)
    if r.pattern.matchesEmpty then .note (emptyMatchRecord index r)
    let others ← checkFrom (r.name :: seen) (index + 1) rest
    pure (r :: others)

/-- The record about a finished compilation of user rules. -/
def compiledRecord (rules : List Rule) : Record :=
  ⟨.debug, .rules, some ("Compiled " ++ toString rules.length ++ " rules: " ++
    String.intercalate ", " (namesOf (withFallback rules)))⟩

/-- The lexer of rules that have been checked. -/
def ofRules (given : List Rule) : Except Fault Lexer :=
  match h : Composite.build ((withFallback given).map Rule.pattern) with
  | .ok composite => .ok ⟨given, composite, Composite.build_parts h⟩
  | .error e => .error e

/-- Compiles a rule list. -/
def compile (entries : List Entry) : Logged Lexer := do
  let given ← checkFrom [] 0 entries
  let lx ← .ofExcept (ofRules given)
  .note (compiledRecord given)
  pure lx

/-- Compiles the entries that a value yields. -/
def compileValue (v : Value) : Logged Lexer := do
  let entries ← .ofExcept v.elements
  compile (entries.map Entry.ofValue)

/-! ## Properties -/

/-- The index of the rule of last resort. -/
def fallbackIndex (lx : Lexer) : Nat := lx.rules.length - 1

/-- The types of the tokens that the lexer makes, in order of priority. -/
def names (lx : Lexer) : List String := namesOf lx.rules

/-- The same names in alphabetical order. -/
def sortedNames (lx : Lexer) : List String := lx.names.mergeSort (fun a b => a ≤ b)

/-- The lexer by its names. -/
def shown (lx : Lexer) : String := "Lexer(" ++ String.intercalate ", " lx.names ++ ")"

end Lexer

end PatternLexer
